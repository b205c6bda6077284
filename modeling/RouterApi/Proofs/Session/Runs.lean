import RouterApi.Proofs.Session.Stability

/-!
# Runs of a session

A run of a session consists of what its owner does, in any order: mint tags, make and register
requests, remove entries, dispatch sentences, cancel requests, and complete all outstanding ones.
Whatever a callback does, while one of these operations is still in progress, is a run as well.
-/

namespace RouterApi
namespace Session

variable {Λ : Type}

/-- One session is reached from another by a run. What a host does on behalf of a callback, from any
session, is a run itself. -/
inductive Reaches : Session Λ → Session Λ → Prop
  | refl {session} :
      Reaches session session
  | trans {first second third}
      (earlier : Reaches first second)
      (later : Reaches second third) :
      Reaches first third
  | relink {session} link :
      Reaches session { session with link }
  | log {session} level source message :
      Reaches session (session.log level source message)
  | mint {session} :
      Reaches session { session with dispatcher := session.dispatcher.mint.2 }
  | make {session} request
      (incomplete : request.isDone = false) :
      Reaches session { session with dispatcher := (session.dispatcher.adopt request).2 }
  | register {session request dispatcher} number
      (known : session.request? number = some request)
      (incomplete : request.isDone = false)
      (registered : session.dispatcher.register number = .ok dispatcher) :
      Reaches session { session with dispatcher }
  | remove {session} tag :
      Reaches session (session.remove tag)
  | dispatch {session} {host : Host Λ}
      (cancels : ∀ tag session, Reaches session (host.cancel tag session).2)
      (closes : ∀ session, Reaches session (host.close session))
      (sentence) :
      Reaches session (session.dispatch host sentence).2
  | failAll {session close}
      (closes : ∀ session, Reaches session (close session))
      (error) :
      Reaches session (session.failAll close error)
  | cancel {session cancel}
      (cancels : ∀ tag session, Reaches session (cancel tag session).2)
      (number) :
      Reaches session (session.cancelRequest cancel number).2

/-- A stable property persists if it does not depend on the connection, and is kept when requests
are made and registered. -/
structure Persists (Property : Session Λ → Prop) : Prop extends
    Stable (fun _ => True) Property where
  relink : ∀ {session} link, Property session → Property { session with link }
  mint : ∀ {session}, Property session →
    Property { session with dispatcher := session.dispatcher.mint.2 }
  make : ∀ {session} request, Property session →
    Property { session with dispatcher := (session.dispatcher.adopt request).2 }
  register : ∀ {session number request dispatcher}, session.request? number = some request →
    session.dispatcher.register number = .ok dispatcher → Property session →
    Property { session with dispatcher }

variable {Property : Session Λ → Prop} {session after : Session Λ}

/-- A property that persists is stable under a host that keeps it. -/
theorem Persists.stableUnder
    {host : Host Λ}
    (persists : Persists Property)
    (cancels : ∀ tag session, Property session → Property (host.cancel tag session).2)
    (closes : ∀ session, Property session → Property (host.close session)) :
    StableUnder host (fun _ => True) Property where
  toStable := persists.toStable
  cancel tag := cancels tag _
  close := closes _
  giveUp _ := persists.relink _

/-- A property that persists holds throughout a run. -/
theorem Persists.reaches
    (persists : Persists Property)
    (reaches : Reaches session after)
    (property : Property session) :
    Property after := by
  induction reaches with
  | refl => exact property
  | trans _ _ earlierHypothesis laterHypothesis =>
      exact laterHypothesis (earlierHypothesis property)
  | relink link => exact persists.relink link property
  | log level source message => exact persists.log level source message property
  | mint => exact persists.mint property
  | make request => exact persists.make request property
  | register _ known _ registered => exact persists.register known registered property
  | remove tag => exact persists.remove tag property
  | @dispatch session host _ _ sentence cancelsHypothesis closesHypothesis =>
      have stable := persists.stableUnder cancelsHypothesis closesHypothesis
      exact stable.upholds.dispatch sentence property
  | failAll _ error closesHypothesis =>
      exact persists.toStable.failAll (closesHypothesis _) error property
  | cancel _ number cancelsHypothesis =>
      exact persists.toStable.cancelRequest (fun tag => cancelsHypothesis tag _) trivial property

/-! ## Failed sessions -/

/-- A fact about the failure and the table persists if it is kept by whatever changes them. -/
theorem persists_table
    (Fact : Option Error → Assoc Text Nat → Prop)
    (remove : ∀ {failure pending} tag, Fact failure pending →
      Fact failure (Assoc.erase tag pending))
    (cutOff : ∀ {failure pending} error, Fact failure pending → Fact (failure.or (some error)) [])
    (register : ∀ {pending} tag number, Fact none pending → Fact none (pending.set tag number)) :
    Persists fun session : Session Λ =>
      Fact session.dispatcher.failure session.dispatcher.pending where
  toStable := stable_table Fact remove cutOff
  relink _ fact := fact
  mint fact := fact
  make _ fact := fact
  register known registered fact := by
    obtain ⟨working, -, rfl⟩ := (Dispatcher.register_eq_ok_iff known).mp registered
    rw [working] at fact ⊢
    exact register _ _ fact

/-- A session that has failed refuses registrations with its failure, and has no outstanding
requests. -/
def HasFailed
    (failure : Error)
    (session : Session Λ) : Prop :=
  session.dispatcher.failure = some failure ∧ session.dispatcher.pending = []

variable {failure : Error}

/-- The first failure of a session is the one that is kept. -/
theorem persists_hasFailed (failure : Error) : Persists (@HasFailed Λ failure) := by
  refine persists_table (fun own pending => own = some failure ∧ pending = []) ?_ ?_ ?_
  · rintro own pending tag ⟨rfl, rfl⟩
    exact ⟨rfl, rfl⟩
  · rintro own pending error ⟨rfl, rfl⟩
    exact ⟨rfl, rfl⟩
  · rintro pending tag number ⟨working, -⟩
    cases working

/-- Only a session without outstanding requests has a failure. -/
theorem persists_empty :
    Persists fun session : Session Λ =>
      session.dispatcher.failure ≠ none → session.dispatcher.pending = [] := by
  refine persists_table (fun failure pending => failure ≠ none → pending = []) ?_ ?_ ?_
  · intro failure pending tag empty failed
    rw [empty failed, Assoc.erase]
  · intro failure pending error empty failed
    rfl
  · intro pending tag number empty failed
    exact absurd rfl failed

/-- A session with a failure has failed, whatever run it is reached by. -/
theorem Reaches.hasFailed
    {link : Λ}
    (reached : Reaches { link } session)
    (failure_eq : session.dispatcher.failure = some failure) :
    session.HasFailed failure := by
  have empty := persists_empty.reaches reached fun _ => rfl
  exact ⟨failure_eq, empty (by simp [failure_eq])⟩

theorem HasFailed.lookup?_eq_none
    (failed : session.HasFailed failure)
    (tag : Text) :
    session.lookup? tag = none := by
  rw [lookup?, failed.2, Assoc.get?_nil]

theorem HasFailed.register_eq
    (failed : session.HasFailed failure)
    (number : Nat) :
    session.dispatcher.register number = .error (.closed (.refused failure.message)) := by
  simp [Dispatcher.register, failed.1]

/-- Emptying the table makes a session fail, unless it has failed before. -/
theorem hasFailed_cutOff
    (error : Error)
    (session : Session Λ) :
    (session.cutOff error).HasFailed (session.dispatcher.failure.getD error) := by
  refine ⟨?_, rfl⟩
  unfold Session.cutOff
  cases session.dispatcher.failure with
  | none => rfl
  | some failure => rfl

/-- Completing all outstanding requests makes a session fail, unless it has failed before. -/
theorem hasFailed_failAll
    {close : Session Λ → Session Λ}
    (closes : ∀ session, Reaches session (close session))
    (error : Error)
    (session : Session Λ) :
    (session.failAll close error).HasFailed (session.dispatcher.failure.getD error) :=
  (persists_hasFailed _).failEach ((persists_hasFailed _).reaches (closes _)) error
    (fun _ _ => trivial) (hasFailed_cutOff error session)

/-- The calls of the callbacks of requests, without the receipts of cancellations. -/
def callbackCalls (session : Session Λ) : List Call :=
  session.journal.calls.filter (·.tag?.isSome)

/-- No callback is called in the run of a session that has failed. -/
theorem Reaches.callbackCalls_eq
    (reaches : Reaches session after)
    (failed : session.HasFailed failure) :
    after.callbackCalls = session.callbackCalls := by
  induction reaches with
  | refl | relink | log | mint | make | register | remove => rfl
  | trans earlier _ earlierHypothesis laterHypothesis =>
      have stillFailed := (persists_hasFailed failure).reaches earlier failed
      rw [laterHypothesis stillFailed, earlierHypothesis failed]
  | @dispatch session host _ _ sentence =>
      have dispatches := dispatches_dispatch host sentence session
      generalize (session.dispatch host sentence).2 = after at dispatches ⊢
      cases dispatches with
      | skipped | unmatched => rfl
      | fed found =>
          rw [failed.lookup?_eq_none] at found
          cases found
  | failAll _ error =>
      rw [Session.failAll, failed.2]
      rfl
  | @cancel session cancel _ number cancelsHypothesis =>
      have cancels := cancels_cancelRequest cancel number session
      generalize (session.cancelRequest cancel number).2 = after at cancels ⊢
      cases cancels with
      | idle => rfl
      | asked => exact cancelsHypothesis _ _ ⟨failed.1, failed.2⟩

/-! ## Complete requests -/

/-- A session keeps the requests of an earlier one: their tags, and the outcomes of those that are
complete. -/
def Keeps (earlier session : Session Λ) : Prop :=
  ∀ number request, earlier.request? number = some request →
    ∃ current, session.request? number = some current ∧ current.tag = request.tag ∧
      (request.isDone = true → current.outcome = request.outcome)

theorem Keeps.refl (session : Session Λ) : session.Keeps session :=
  fun _ request known => ⟨request, known, rfl, fun _ => rfl⟩

/-- Changing a request keeps it if it keeps the tag, and the outcome unless there is none yet. -/
theorem Keeps.modify
    {earlier : Session Λ}
    {number : Nat}
    {change : Request → Request}
    (keeps : earlier.Keeps session)
    (keepsTag : ∀ request, (change request).tag = request.tag)
    (keepsOutcome : ∀ request, session.request? number = some request → request.isDone = true →
      (change request).outcome = request.outcome) :
    earlier.Keeps (session.modify number change) := by
  intro other request known
  obtain ⟨current, found, tag_eq, outcome_eq⟩ := keeps other request known
  rw [request?_modify, found]
  by_cases same : number = other
  · subst same
    rw [if_pos rfl]
    refine ⟨change current, rfl, (keepsTag current).trans tag_eq, ?_⟩
    intro done
    have currentDone : current.isDone = true := by
      rwa [Request.isDone, outcome_eq done]
    exact (keepsOutcome current found currentDone).trans (outcome_eq done)
  · rw [if_neg same]
    exact ⟨current, rfl, tag_eq, outcome_eq⟩

theorem persists_keeps (earlier : Session Λ) : Persists earlier.Keeps where
  entry _ _ := trivial
  log _ _ _ keeps := keeps
  receipt _ keeps := keeps
  conclude {session number request} error _ known outstanding keeps := by
    have modified : earlier.Keeps (session.modify number fun request =>
        { request with outcome := some error }) := by
      refine keeps.modify (fun _ => rfl) ?_
      intro current found done
      rw [known] at found
      cases found
      rw [outstanding] at done
      cases done
    intro other found earlierKnown
    rw [request?_conclude]
    exact modified other found earlierKnown
  queue _ _ _ _ keeps := keeps.modify (fun _ => rfl) (fun _ _ _ => rfl)
  fold _ _ keeps := keeps.modify (fun _ => rfl) (fun _ _ _ => rfl)
  call _ _ _ _ keeps := keeps
  mark _ _ _ keeps := keeps.modify (fun _ => rfl) (fun _ _ _ => rfl)
  remove _ keeps := keeps
  unmatched _ _ keeps := keeps
  cutOff _ keeps := keeps
  relink _ keeps := keeps
  mint keeps := keeps
  make {session} made keeps := by
    intro number request known
    obtain ⟨current, found, kept⟩ := keeps number request known
    have lower := (List.getElem?_eq_some_iff.mp found).1
    exact ⟨current, (Dispatcher.request?_adopt_of_lt made _ lower).trans found, kept⟩
  register known registered keeps := by
    obtain ⟨-, -, rfl⟩ := (Dispatcher.register_eq_ok_iff known).mp registered
    exact keeps

/-- A request keeps its tag throughout a run, and its outcome once it is complete. -/
theorem Reaches.keeps (reaches : Reaches session after) : session.Keeps after :=
  (persists_keeps session).reaches reaches (Keeps.refl session)

/-- A request is kept when a sentence is delivered to it. -/
theorem Delivers.keeps
    {host : Host Λ}
    {number : Nat}
    {sentence : Sentence}
    {delivery : Delivery}
    (cancels : ∀ tag session, Reaches session (host.cancel tag session).2)
    (closes : ∀ session, Reaches session (host.close session))
    (delivers : Delivers host number sentence session delivery after) :
    session.Keeps after := by
  have stable := (persists_keeps session).stableUnder
    (fun tag other => (persists_keeps session).reaches (cancels tag other))
    (fun other => (persists_keeps session).reaches (closes other))
  exact stable.upholds.delivers [] delivers trivial (Keeps.refl session)

end Session
end RouterApi
