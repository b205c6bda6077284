import RouterApi.Proofs.Session.Outcomes

/-!
# Stable properties of sessions

Whatever a session does to its requests is made of a few elementary updates. A property that each of
them keeps is stable: it is kept by completing one or all requests, and by dispatching a sentence.
The updates only concern requests that the table leads to.
-/

namespace RouterApi
namespace Session

variable {Λ : Type}

/-- A property of sessions is completing if the updates that complete a request keep it. These are
only made to concerned requests. -/
structure Completes
    (Concerned : Nat → Prop)
    (Property : Session Λ → Prop) : Prop where
  log : ∀ {session} level source message, Property session →
    Property (session.log level source message)
  receipt : ∀ {session} receipt, Property session → Property (session.note (.cancelled receipt))
  conclude : ∀ {session number request} error, Concerned number →
    session.request? number = some request → request.isDone = false → Property session →
    Property (session.conclude number request error)
  queue : ∀ {session number request queue after item}, Concerned number →
    session.request? number = some request → request.handler = .listener queue →
    queue.offer item = .taken after → Property session →
    Property (session.modify number fun request => { request with handler := .listener after })

/-- A property of sessions is settling if it is completing, and kept when the table is emptied. The
entries of the table lead to concerned requests. -/
structure Settles
    (Concerned : Nat → Prop)
    (Property : Session Λ → Prop) : Prop extends Completes Concerned Property where
  entry : ∀ {session tag number}, Property session →
    (tag, number) ∈ session.dispatcher.pending → Concerned number
  cutOff : ∀ {session} error, Property session → Property (session.cutOff error)

/-- A property of sessions is stable if every elementary update keeps it, those that delivering
sentences and cancelling requests consist of included. -/
structure Stable
    (Concerned : Nat → Prop)
    (Property : Session Λ → Prop) : Prop extends Settles Concerned Property where
  fold : ∀ {session number} sentence, Concerned number → Property session →
    Property (session.modify number fun request =>
      { request with reply := request.reply.process sentence })
  call : ∀ {session number request reaction onComplete} sentence, Concerned number →
    session.request? number = some request →
    request.handler = .callbacks (some reaction) onComplete → Property session →
    Property (session.note (.delivered request.tag sentence))
  mark : ∀ {session number request}, Concerned number →
    session.request? number = some request → request.isDone = false → Property session →
    Property (session.modify number fun request => { request with cancelled := true })
  remove : ∀ {session} tag, Property session → Property (session.remove tag)
  unmatched : ∀ {session} error sentence, Property session →
    Property (session.unmatched error sentence)

/-- A property is stable under a host if what the host does keeps it as well. -/
structure StableUnder
    (host : Host Λ)
    (Concerned : Nat → Prop)
    (Property : Session Λ → Prop) : Prop extends Stable Concerned Property where
  cancel : ∀ {session} tag, Property session → Property (host.cancel tag session).2
  close : ∀ {session}, Property session → Property (host.close session)
  giveUp : ∀ {session link}, host.giveUp? session.link = some link → Property session →
    Property { session with link }

/-- A property withstands what a host does with owned requests if each step of feeding a sentence to
one of them keeps it. A request that is taken out of the table is completed in the same step, so the
property may fail in between. A request is owned by a tag and a number that belong together. -/
structure Withstands
    (host : Host Λ)
    (Owns : Text → Nat → Prop)
    (Property : Session Λ → Prop) : Prop where
  log : ∀ {session} level source message, Property session →
    Property (session.log level source message)
  receipt : ∀ {session} receipt, Property session → Property (session.note (.cancelled receipt))
  queue : ∀ {session tag number request queue after item}, Owns tag number →
    session.request? number = some request → request.handler = .listener queue →
    queue.offer item = .taken after → Property session →
    Property (session.modify number fun request => { request with handler := .listener after })
  fold : ∀ {session tag number} sentence, Owns tag number → Property session →
    Property (session.modify number fun request =>
      { request with reply := request.reply.process sentence })
  call : ∀ {session tag number request reaction onComplete} sentence, Owns tag number →
    session.request? number = some request →
    request.handler = .callbacks (some reaction) onComplete → Property session →
    Property (session.note (.delivered request.tag sentence))
  mark : ∀ {session tag number request}, Owns tag number →
    session.request? number = some request → request.isDone = false → Property session →
    Property (session.modify number fun request => { request with cancelled := true })
  unmatched : ∀ {session} error sentence, Property session →
    Property (session.unmatched error sentence)
  release : ∀ {session tag number} error, Owns tag number → Property session →
    Property ((session.remove tag).finishLogged host.close tag number error)
  cancel : ∀ {session tag}, session.IsSelfCancelling tag → Property session →
    Property (host.cancel tag session).2
  close : ∀ {session}, Property session → Property (host.close session)
  giveUp : ∀ {session link}, host.giveUp? session.link = some link → Property session →
    Property { session with link }

/-- A property is upheld under a host if dispatching sentences keeps it, one step at a time: it
withstands what the host does with owned requests, and the entries of the table are owned. -/
structure Upholds
    (host : Host Λ)
    (Owns : Text → Nat → Prop)
    (Property : Session Λ → Prop) : Prop extends Withstands host Owns Property where
  entry : ∀ {session tag number}, Property session →
    (tag, number) ∈ session.dispatcher.pending → Owns tag number

variable
  {Concerned : Nat → Prop}
  {Property : Session Λ → Prop}
  {close : Session Λ → Session Λ}
  {session : Session Λ}
  {number : Nat}

/-- A fact about the connection alone is stable. -/
theorem stable_link (Fact : Λ → Prop) :
    Stable (fun _ => True) fun session : Session Λ => Fact session.link where
  entry _ _ := trivial
  log _ _ _ fact := fact
  receipt _ fact := fact
  conclude error _ _ _ fact := by rwa [link_conclude]
  queue _ _ _ _ fact := fact
  fold _ _ fact := fact
  call _ _ _ _ fact := fact
  mark _ _ _ fact := fact
  remove _ fact := fact
  unmatched _ _ fact := fact
  cutOff _ fact := fact

/-- A fact about the failure and the table is stable if it is kept when an entry is removed and
when the table is emptied. -/
theorem stable_table
    (Fact : Option Error → Assoc Text Nat → Prop)
    (remove : ∀ {failure pending} tag, Fact failure pending →
      Fact failure (Assoc.erase tag pending))
    (cutOff : ∀ {failure pending} error, Fact failure pending → Fact (failure.or (some error)) []) :
    Stable (fun _ => True) fun session : Session Λ =>
      Fact session.dispatcher.failure session.dispatcher.pending where
  entry _ _ := trivial
  log _ _ _ fact := fact
  receipt _ fact := fact
  conclude error _ _ _ fact := by
    rw [dispatcher_conclude]
    exact fact
  queue _ _ _ _ fact := fact
  fold _ _ fact := fact
  call _ _ _ _ fact := fact
  mark _ _ _ fact := fact
  remove tag fact := remove tag fact
  unmatched _ _ fact := fact
  cutOff error fact := cutOff error fact

/-- A stable property stays stable together with one that concerns no request in particular. -/
theorem Stable.and
    {Fact : Session Λ → Prop}
    (stable : Stable Concerned Property)
    (factStable : Stable (fun _ => True) Fact) :
    Stable Concerned fun session : Session Λ => Property session ∧ Fact session where
  entry both := stable.entry both.1
  log level source message both :=
    ⟨stable.log level source message both.1, factStable.log level source message both.2⟩
  receipt receipt both := ⟨stable.receipt receipt both.1, factStable.receipt receipt both.2⟩
  conclude error concerned known outstanding both :=
    ⟨stable.conclude error concerned known outstanding both.1,
      factStable.conclude error trivial known outstanding both.2⟩
  queue concerned known handler offered both :=
    ⟨stable.queue concerned known handler offered both.1,
      factStable.queue trivial known handler offered both.2⟩
  cutOff error both := ⟨stable.cutOff error both.1, factStable.cutOff error both.2⟩
  fold sentence concerned both :=
    ⟨stable.fold sentence concerned both.1, factStable.fold sentence trivial both.2⟩
  call sentence concerned known handler both :=
    ⟨stable.call sentence concerned known handler both.1,
      factStable.call sentence trivial known handler both.2⟩
  mark concerned known outstanding both :=
    ⟨stable.mark concerned known outstanding both.1,
      factStable.mark trivial known outstanding both.2⟩
  remove tag both := ⟨stable.remove tag both.1, factStable.remove tag both.2⟩
  unmatched error sentence both :=
    ⟨stable.unmatched error sentence both.1, factStable.unmatched error sentence both.2⟩

/-! ## Completion -/

/-- Completing a request keeps a completing property. -/
theorem Completes.finish
    (completes : Completes Concerned Property)
    (keeps : ∀ {session}, Property session → Property (close session))
    (error : Option Error)
    (concerned : Concerned number)
    (property : Property session) :
    Property (session.finish close number error).2 := by
  have finishes := finishes_finish close number error session
  generalize (session.finish close number error).2 = after at finishes ⊢
  cases finishes with
  | idle => exact property
  | announced known outstanding =>
      exact completes.conclude error concerned known outstanding property
  | @marked request queue changed known outstanding handler offered =>
      have concluded := completes.conclude error concerned known outstanding property
      have current : (session.conclude number request error).request? number =
          some { request with outcome := some error } := by
        simp [request?_conclude, known]
      exact completes.queue concerned current handler offered concluded
  | declined known outstanding =>
      exact completes.receipt none (completes.conclude error concerned known outstanding property)
  | closed known outstanding =>
      exact keeps (completes.conclude error concerned known outstanding property)

theorem Completes.finishLogged
    (completes : Completes Concerned Property)
    (keeps : ∀ {session}, Property session → Property (close session))
    (label : Text)
    (error : Option Error)
    (concerned : Concerned number)
    (property : Property session) :
    Property (session.finishLogged close label number error) := by
  have finished := completes.finish keeps error concerned property
  rcases finishLogged_eq close label number error session with same | same
  · rwa [same]
  · rw [same]
    exact completes.log _ _ _ finished

theorem Completes.failEach
    (completes : Completes Concerned Property)
    (keeps : ∀ {session}, Property session → Property (close session))
    (error : Error)
    {entries : List (Text × Nat)}
    (concerned : ∀ entry ∈ entries, Concerned entry.2)
    (property : Property session) :
    Property (session.failEach close error entries) := by
  induction entries generalizing session with
  | nil => exact property
  | cons entry rest inductionHypothesis =>
      obtain ⟨first, others⟩ := List.forall_mem_cons.mp concerned
      exact inductionHypothesis others
        (completes.finishLogged keeps entry.1 (some error) first property)

theorem finishLogged_of_unknown
    (close : Session Λ → Session Λ)
    (label : Text)
    (error : Option Error)
    (unknown : session.request? number = none) :
    session.finishLogged close label number error = session := by
  simp [Session.finishLogged, Session.finish, unknown]

/-- Completing all outstanding requests keeps a settling property. -/
theorem Settles.failAll
    (settles : Settles Concerned Property)
    (keeps : ∀ {session}, Property session → Property (close session))
    (error : Error)
    (property : Property session) :
    Property (session.failAll close error) :=
  settles.toCompletes.failEach keeps error (fun _ member => settles.entry property member)
    (settles.cutOff error property)

/-- Cancelling a request keeps a property if marking the request and asking the device keep it. -/
theorem cancelRequest_of_mark
    {cancel : Text → Session Λ → Except Error Text × Session Λ}
    (mark : ∀ {request}, session.request? number = some request → request.isDone = false →
      Property session →
      Property (session.modify number fun request => { request with cancelled := true }))
    (keeps : ∀ {request}, session.request? number = some request →
      Property (session.modify number fun request => { request with cancelled := true }) →
      Property (cancel request.tag
        (session.modify number fun request => { request with cancelled := true })).2)
    (property : Property session) :
    Property (session.cancelRequest cancel number).2 := by
  have cancels := cancels_cancelRequest cancel number session
  generalize (session.cancelRequest cancel number).2 = after at cancels ⊢
  cases cancels with
  | idle => exact property
  | asked known outstanding => exact keeps known (mark known outstanding property)

/-- Cancelling a request keeps a stable property if asking the device for it does. -/
theorem Stable.cancelRequest
    (stable : Stable Concerned Property)
    {cancel : Text → Session Λ → Except Error Text × Session Λ}
    (keeps : ∀ {session} tag, Property session → Property (cancel tag session).2)
    (concerned : Concerned number)
    (property : Property session) :
    Property (session.cancelRequest cancel number).2 :=
  cancelRequest_of_mark (stable.mark concerned) (fun _ => keeps _) property

/-! ## Dispatch -/

section Dispatch

variable {host : Host Λ} {Owns : Text → Nat → Prop} {tag : Text}

/-- A callback that cancels its own request keeps a property that withstands it. -/
theorem Withstands.cancelRequest
    (withstands : Withstands host Owns Property)
    (owned : Owns tag number)
    (property : Property session)
    {request : Request}
    {onComplete : Option Reaction}
    (known : session.request? number = some request)
    (handler : request.handler = .callbacks (some .cancel) onComplete) :
    Property (session.cancelRequest host.cancel number).2 := by
  refine cancelRequest_of_mark (withstands.mark owned) ?_ property
  intro other otherKnown marked
  cases Option.some.inj (known.symm.trans otherKnown)
  refine withstands.cancel ⟨number, { request with cancelled := true }, ?_, rfl, ?_⟩ marked
  · simp [known]
  · rw [handler]
    rfl

/-- Handing a data sentence to an owned request keeps a property that withstands it. -/
theorem Withstands.delivers
    (withstands : Withstands host Owns Property)
    (tag : Text)
    {sentence : Sentence}
    {delivery : Delivery}
    {after : Session Λ}
    (delivers : Delivers host number sentence session delivery after)
    (owned : Owns tag number)
    (property : Property session) :
    Property after := by
  cases delivers with
  | ignored | refused | stalled => exact property
  | queued known handler offered => exact withstands.queue owned known handler offered property
  | discarded givenUp => exact withstands.log _ _ _ (withstands.giveUp givenUp property)
  | called known handler | failed known handler =>
      exact withstands.call sentence owned known handler property
  | closed known handler =>
      exact withstands.close (withstands.call sentence owned known handler property)
  | cancelled known handler cancelled =>
      have called := withstands.call sentence owned known handler property
      have kept := withstands.cancelRequest owned called known handler
      rw [cancelled] at kept
      exact withstands.receipt _ kept
  | notCancelled known handler cancelled =>
      have called := withstands.call sentence owned known handler property
      have kept := withstands.cancelRequest owned called known handler
      rwa [cancelled] at kept

theorem Withstands.deliver
    (withstands : Withstands host Owns Property)
    (tag : Text)
    (sentence : Sentence)
    (owned : Owns tag number)
    (property : Property session) :
    Property (session.deliver host number sentence).2 :=
  withstands.delivers tag (delivers_deliver host number sentence session) owned property

theorem Withstands.abandon
    (withstands : Withstands host Owns Property)
    (error : Error)
    (owned : Owns tag number)
    (property : Property session) :
    Property (session.abandon host tag number error) :=
  withstands.release (some error) owned (withstands.log _ _ _ property)

/-- A terminal sentence retires a request that is known. -/
theorem Withstands.retire
    (withstands : Withstands host Owns Property)
    (owned : Owns tag number)
    (property : Property session) :
    Property (session.retire host tag number) := by
  unfold Session.retire
  cases known : (session.remove tag).request? number with
  | none =>
      have released := withstands.release none owned property
      rw [finishLogged_of_unknown _ _ _ known] at released
      simpa [known] using released
  | some request =>
      simp only [known]
      exact withstands.release request.finalError owned property

theorem Withstands.feed
    (withstands : Withstands host Owns Property)
    (sentence : Sentence)
    (owned : Owns tag number)
    (property : Property session) :
    Property (session.feed host tag number sentence).2 := by
  have feeds := feeds_feed host tag number sentence session
  have folded := withstands.fold sentence owned property
  generalize (session.feed host tag number sentence).2 = after at feeds ⊢
  cases feeds with
  | collected => exact folded
  | delivered delivers => exact withstands.delivers tag delivers owned folded
  | abandoned delivers =>
      exact withstands.abandon _ owned (withstands.delivers tag delivers owned folded)
  | retired => exact withstands.retire owned folded

/-- Dispatching a sentence keeps a property that is upheld. -/
theorem Upholds.dispatch
    (upholds : Upholds host Owns Property)
    (sentence : Sentence)
    (property : Property session) :
    Property (session.dispatch host sentence).2 := by
  have dispatches := dispatches_dispatch host sentence session
  generalize (session.dispatch host sentence).2 = after at dispatches ⊢
  cases dispatches with
  | skipped => exact property
  | unmatched error => exact upholds.unmatched error sentence property
  | fed found =>
      exact upholds.feed sentence (upholds.entry property (Assoc.mem_of_get?_eq_some found))
        property

/-- A stable property is upheld. -/
theorem StableUnder.upholds
    (stable : StableUnder host Concerned Property) :
    Upholds host (fun _ => Concerned) Property where
  entry := stable.entry
  log := stable.log
  receipt := stable.receipt
  queue := stable.queue
  fold := stable.fold
  call := stable.call
  mark := stable.mark
  unmatched := stable.unmatched
  release error concerned property :=
    stable.finishLogged stable.close _ error concerned (stable.remove _ property)
  cancel _ := stable.cancel _
  close := stable.close
  giveUp := stable.giveUp

end Dispatch

/-! ## Hold-ups -/

section Holdups

variable {host : Host Λ} {sentence : Sentence} {after : Session Λ}

/-- Delivery is only held up by the full queue of a listener, and then nothing has changed. -/
theorem deliver_eq_stalled
    (stalled : session.deliver host number sentence = (.stalled, after)) :
    after = session ∧ ∃ request queue, session.request? number = some request ∧
      request.handler = .listener queue ∧ queue.offer (some sentence) = .full ∧
      host.giveUp? session.link = none := by
  have delivers := delivers_deliver host number sentence session
  rw [stalled] at delivers
  cases delivers with
  | stalled known handler full waiting => exact ⟨rfl, _, _, known, handler, full, waiting⟩

theorem deliver_of_full
    {request : Request}
    {queue : Queue}
    (known : session.request? number = some request)
    (handler : request.handler = .listener queue)
    (full : queue.offer (some sentence) = .full)
    (waiting : host.giveUp? session.link = none) :
    session.deliver host number sentence = (.stalled, session) := by
  simp [Session.deliver, known, handler, full, waiting]

theorem feed_eq_stalled
    {tag : Text}
    {other : Nat}
    (stalled : session.feed host tag number sentence = (.stalled other, after)) :
    other = number ∧ after.deliver host number sentence = (.stalled, after) := by
  by_cases data : sentence.control = .data
  · rw [feed_of_data host data] at stalled
    generalize session.modify number _ = processed at stalled
    split at stalled
    · rename_i held delivered
      cases stalled
      obtain ⟨rfl, -⟩ := deliver_eq_stalled delivered
      exact ⟨rfl, delivered⟩
    · cases stalled
    · cases stalled
  · rw [feed_of_ne_data host data] at stalled
    split at stalled
    · cases stalled
    · cases stalled

/-- A sentence is only held up by an outstanding request, and would be held up again. -/
theorem dispatch_eq_stalled
    (stalled : session.dispatch host sentence = (.stalled number, after)) :
    ∃ tag, session.lookup? tag = some number ∧
      after.deliver host number sentence = (.stalled, after) := by
  unfold Session.dispatch at stalled
  cases tag_eq : sentence.tag with
  | none =>
      rw [tag_eq] at stalled
      simp only at stalled
      split at stalled <;> simp at stalled
  | some tag =>
      rw [tag_eq] at stalled
      simp only at stalled
      cases found : session.lookup? tag with
      | none => simp [found] at stalled
      | some other =>
          simp only [found] at stalled
          obtain ⟨rfl, held⟩ := feed_eq_stalled stalled
          exact ⟨tag, found, held⟩

end Holdups

end Session
end RouterApi
