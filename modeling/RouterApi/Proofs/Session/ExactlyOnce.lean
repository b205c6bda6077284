import RouterApi.Proofs.Session.Runs

/-!
# Completion exactly once

The calls of callbacks carry the tags of their requests only, so each of them is booked in a ledger
under the number of the request. A session has sound books if its outstanding requests are
incomplete, and the ledger holds the one completion of each request that is complete, after all
other calls. Every operation extends sound books, whatever the callbacks do meanwhile.
-/

namespace RouterApi

/-- Whether a call announces the completion of a request. -/
def Call.isCompletion : Call → Bool
  | .completed _ _ => true
  | .delivered _ _ | .cancelled _ => false

/-- Whether a handler has a callback for the completion. -/
def Handler.announces : Handler → Bool
  | .callbacks _ onComplete => onComplete.isSome
  | .listener _ => false

namespace Request

/-- The call that announces the completion of a request, if it is complete and has a callback. -/
def announcement (request : Request) : Option Call :=
  if request.handler.announces then request.outcome.map (.completed request.tag) else none

/-- What the books depend on: the tag, the outcome, and whether the completion is announced. -/
def profile (request : Request) : Text × Option (Option Error) × Bool :=
  (request.tag, request.outcome, request.handler.announces)

variable {request changed : Request}

theorem profile_eq_iff :
    changed.profile = request.profile ↔
      changed.tag = request.tag ∧ changed.outcome = request.outcome ∧
        changed.handler.announces = request.handler.announces := by
  simp [profile]

theorem announcement_of_profile_eq (same : changed.profile = request.profile) :
    changed.announcement = request.announcement := by
  obtain ⟨tag_eq, outcome_eq, announces_eq⟩ := profile_eq_iff.mp same
  rw [announcement, announcement, tag_eq, outcome_eq, announces_eq]

theorem announcement_of_incomplete (incomplete : request.isDone = false) :
    request.announcement = none := by
  have outcome_eq : request.outcome = none := by simpa [isDone] using incomplete
  simp [announcement, outcome_eq]

theorem tag?_of_announcement
    {call : Call}
    (announced : request.announcement = some call) :
    call.tag? = some request.tag ∧ call.isCompletion = true := by
  unfold announcement at announced
  split at announced
  · obtain ⟨error, -, rfl⟩ := Option.map_eq_some_iff.mp announced
    exact ⟨rfl, rfl⟩
  · cases announced

end Request

namespace Session

variable {Λ : Type}

/-! ## Ledgers -/

/-- The calls of callbacks, each under the number of its request, in the order of their starts. -/
abbrev Ledger := List (Nat × Call)

/-- The completions of a request in a ledger. -/
def Ledger.completionsOf
    (number : Nat)
    (ledger : Ledger) : List Call :=
  (ledger.filter fun entry => entry.1 == number && entry.2.isCompletion).map Prod.snd

/-- A ledger is sound for a session if it books each call of a callback under a request of its tag,
and for each request the announcement of its completion and nothing after that. Each entry of the
table leads to an incomplete request of its tag. -/
structure CompletesOnce
    (ledger : Ledger)
    (session : Session Λ) : Prop where
  distinct : (Assoc.keys session.dispatcher.pending).Nodup
  entry : ∀ {tag number}, (tag, number) ∈ session.dispatcher.pending →
    ∃ request, session.request? number = some request ∧ request.tag = tag ∧
      request.isDone = false
  recorded : session.callbackCalls = ledger.map Prod.snd
  owned : ∀ {number call}, (number, call) ∈ ledger →
    ∃ request, session.request? number = some request ∧ call.tag? = some request.tag
  completions : ∀ {number request}, session.request? number = some request →
    ledger.completionsOf number = request.announcement.toList
  final : ledger.Pairwise fun earlier later =>
    earlier.1 = later.1 → earlier.2.isCompletion = false

/-- No request is registered under any tag by a number that is unlisted. -/
def IsUnlisted
    (number : Nat)
    (session : Session Λ) : Prop :=
  ∀ tag, (tag, number) ∉ session.dispatcher.pending

variable {ledger : Ledger} {session after : Session Λ} {number : Nat} {request : Request}

/-- Book a call under the number of a request, if there is one. -/
def Ledger.book
    (number : Nat)
    (call? : Option Call)
    (ledger : Ledger) : Ledger :=
  ledger ++ call?.toList.map (number, ·)

theorem Ledger.map_snd_book
    (number : Nat)
    (call? : Option Call)
    (ledger : Ledger) :
    (ledger.book number call?).map Prod.snd = ledger.map Prod.snd ++ call?.toList := by
  simp [book, Function.comp_def]

theorem Ledger.mem_book
    {call? : Option Call}
    {entry : Nat × Call} :
    entry ∈ ledger.book number call? ↔
      entry ∈ ledger ∨ ∃ call, call? = some call ∧ entry = (number, call) := by
  simp [book, eq_comm]

theorem Ledger.completionsOf_book_self
    (number : Nat)
    (call? : Option Call)
    (ledger : Ledger) :
    (ledger.book number call?).completionsOf number =
      ledger.completionsOf number ++ call?.toList.filter Call.isCompletion := by
  cases call? with
  | none => simp [completionsOf, book]
  | some call => cases kind : call.isCompletion <;> simp [completionsOf, book, kind]

theorem Ledger.completionsOf_book_of_ne
    {other : Nat}
    (different : other ≠ number)
    (call? : Option Call)
    (ledger : Ledger) :
    (ledger.book number call?).completionsOf other = ledger.completionsOf other := by
  cases call? with
  | none => simp [completionsOf, book]
  | some call => simp [completionsOf, book, Ne.symm different]

theorem Ledger.completionsOf_eq_nil_iff :
    ledger.completionsOf number = [] ↔
      ∀ entry ∈ ledger, entry.1 = number → entry.2.isCompletion = false := by
  simp [completionsOf]

/-- A call may be booked last as long as the request has no completion. -/
theorem Ledger.pairwise_book
    {call? : Option Call}
    (final : ledger.Pairwise fun earlier later =>
      earlier.1 = later.1 → earlier.2.isCompletion = false)
    (incomplete : ledger.completionsOf number = []) :
    (ledger.book number call?).Pairwise fun earlier later =>
      earlier.1 = later.1 → earlier.2.isCompletion = false := by
  refine List.pairwise_append.mpr ⟨final, ?_, ?_⟩
  · cases call? with
    | none => exact .nil
    | some call => exact List.pairwise_singleton _ _
  · intro earlier earlierMember later laterMember same
    obtain ⟨call, -, rfl⟩ := List.mem_map.mp laterMember
    exact Ledger.completionsOf_eq_nil_iff.mp incomplete earlier earlierMember same

/-- Nothing is booked under a number that no request has. -/
theorem CompletesOnce.completionsOf_eq_nil
    (books : CompletesOnce ledger session)
    (unknown : session.request? number = none) :
    ledger.completionsOf number = [] := by
  rw [Ledger.completionsOf_eq_nil_iff]
  rintro ⟨owner, call⟩ member rfl
  obtain ⟨request, known, -⟩ := books.owned member
  rw [unknown] at known
  cases known

/-- A new session has an empty ledger. -/
theorem completesOnce_fresh (link : Λ) : CompletesOnce [] ({ link } : Session Λ) where
  distinct := List.nodup_nil
  entry member := absurd member List.not_mem_nil
  recorded := rfl
  owned member := absurd member List.not_mem_nil
  completions known := by simp [request?, Dispatcher.request?] at known
  final := .nil

/-- The ledger stays sound if no call is added, no entry is added to the table, and what the books
depend on stays the same for each request. -/
theorem CompletesOnce.of_profile_eq
    (books : CompletesOnce ledger session)
    (entries : after.dispatcher.pending.Sublist session.dispatcher.pending)
    (profile_eq : ∀ number, (after.request? number).map Request.profile =
      (session.request? number).map Request.profile)
    (calls_eq : after.callbackCalls = session.callbackCalls) :
    CompletesOnce ledger after := by
  have foundAfter {number request} (known : session.request? number = some request) :
      ∃ current, after.request? number = some current ∧ current.profile = request.profile := by
    have same := profile_eq number
    rw [known] at same
    exact Option.map_eq_some_iff.mp same
  have foundBefore {number current} (known : after.request? number = some current) :
      ∃ request, session.request? number = some request ∧ request.profile = current.profile := by
    have same := profile_eq number
    rw [known] at same
    exact Option.map_eq_some_iff.mp same.symm
  refine
    { distinct := books.distinct.sublist (entries.map _)
      entry := ?_
      recorded := calls_eq.trans books.recorded
      owned := ?_
      completions := ?_
      final := books.final }
  · intro tag number member
    obtain ⟨request, known, rfl, incomplete⟩ := books.entry (entries.subset member)
    obtain ⟨current, known, same⟩ := foundAfter known
    obtain ⟨tag_eq, outcome_eq, -⟩ := Request.profile_eq_iff.mp same
    refine ⟨current, known, tag_eq, ?_⟩
    rwa [Request.isDone, outcome_eq]
  · intro number call member
    obtain ⟨request, known, tag_eq⟩ := books.owned member
    obtain ⟨current, known, same⟩ := foundAfter known
    exact ⟨current, known, tag_eq.trans (congrArg some (Request.profile_eq_iff.mp same).1.symm)⟩
  · intro number current known
    obtain ⟨request, known, same⟩ := foundBefore known
    rw [books.completions known, Request.announcement_of_profile_eq same]

/-- An incomplete request is served if it changes, but for its tag, and at most one call of its
callbacks is noted, which announces the completion if there is one to announce. It is only completed
when it is not registered any more. -/
structure Serves
    (number : Nat)
    (request changed : Request)
    (call? : Option Call)
    (session after : Session Λ) : Prop where
  known : session.request? number = some request
  incomplete : request.isDone = false
  current : after.request? number = some changed
  others : ∀ other, other ≠ number → after.request? other = session.request? other
  pending_eq : after.dispatcher.pending = session.dispatcher.pending
  tag_eq : changed.tag = request.tag
  calls_eq : after.callbackCalls = session.callbackCalls ++ call?.toList
  tagged : ∀ call, call? = some call → call.tag? = some request.tag
  announced : call?.toList.filter Call.isCompletion = changed.announcement.toList
  listed : changed.isDone = false ∨ session.IsUnlisted number

/-- The ledger stays sound when a request is served, and the call is booked. -/
theorem CompletesOnce.serve
    {changed : Request}
    {call? : Option Call}
    (books : CompletesOnce ledger session)
    (serves : Serves number request changed call? session after) :
    CompletesOnce (ledger.book number call?) after := by
  have uncompleted : ledger.completionsOf number = [] := by
    rw [books.completions serves.known, Request.announcement_of_incomplete serves.incomplete]
    rfl
  refine
    { distinct := by rw [serves.pending_eq]; exact books.distinct
      entry := ?_
      recorded := by rw [serves.calls_eq, books.recorded, Ledger.map_snd_book]
      owned := ?_
      completions := ?_
      final := Ledger.pairwise_book books.final uncompleted }
  · intro tag other member
    rw [serves.pending_eq] at member
    obtain ⟨found, known, rfl, incomplete⟩ := books.entry member
    by_cases same : other = number
    · subst same
      cases Option.some.inj (serves.known.symm.trans known)
      -- A request to which an entry still leads has not been completed by this step.
      have stillIncomplete := serves.listed.resolve_right fun unlisted => unlisted _ member
      exact ⟨changed, serves.current, serves.tag_eq, stillIncomplete⟩
    · exact ⟨found, (serves.others other same).trans known, rfl, incomplete⟩
  · intro other call member
    rcases Ledger.mem_book.mp member with member | ⟨own, own_eq, same⟩
    · obtain ⟨found, known, call_tag⟩ := books.owned member
      by_cases same : other = number
      · subst same
        cases Option.some.inj (serves.known.symm.trans known)
        exact ⟨changed, serves.current, by rw [call_tag, serves.tag_eq]⟩
      · exact ⟨found, (serves.others other same).trans known, call_tag⟩
    · cases same
      exact ⟨changed, serves.current, by rw [serves.tagged _ own_eq, serves.tag_eq]⟩
  · intro other found known
    by_cases same : other = number
    · subst same
      cases Option.some.inj (serves.current.symm.trans known)
      rw [Ledger.completionsOf_book_self, uncompleted, serves.announced, List.nil_append]
    · rw [serves.others other same] at known
      rw [Ledger.completionsOf_book_of_ne same, books.completions known]

/-! ## Elementary updates -/

/-- The books go on from one session to another if every sound ledger can be continued to a sound
one. -/
def Continues (session after : Session Λ) : Prop :=
  ∀ ledger, CompletesOnce ledger session → ∃ more, CompletesOnce (ledger ++ more) after

theorem Continues.refl (session : Session Λ) : session.Continues session :=
  fun ledger books => ⟨[], by rwa [List.append_nil]⟩

theorem Continues.trans
    {middle : Session Λ}
    (first : session.Continues middle)
    (second : middle.Continues after) :
    session.Continues after := by
  intro ledger books
  obtain ⟨more, books⟩ := first ledger books
  obtain ⟨last, books⟩ := second (ledger ++ more) books
  exact ⟨more ++ last, by rwa [← List.append_assoc]⟩

theorem continues_of_profile_eq
    (entries : after.dispatcher.pending.Sublist session.dispatcher.pending)
    (profile_eq : ∀ number, (after.request? number).map Request.profile =
      (session.request? number).map Request.profile)
    (calls_eq : after.callbackCalls = session.callbackCalls) :
    session.Continues after := by
  intro ledger books
  have kept := books.of_profile_eq entries profile_eq calls_eq
  exact ⟨[], by rwa [List.append_nil]⟩

theorem Serves.continues
    {changed : Request}
    {call? : Option Call}
    (serves : Serves number request changed call? session after) :
    session.Continues after :=
  fun _ books => ⟨_, books.serve serves⟩

theorem continues_log
    (level : LogLevel)
    (source : LogSource)
    (message : Text)
    (session : Session Λ) :
    session.Continues (session.log level source message) :=
  continues_of_profile_eq (List.Sublist.refl _) (fun _ => rfl) rfl

theorem continues_relink
    (link : Λ)
    (session : Session Λ) :
    session.Continues { session with link } :=
  continues_of_profile_eq (List.Sublist.refl _) (fun _ => rfl) rfl

theorem continues_unmatched
    (error : Error)
    (sentence : Sentence)
    (session : Session Λ) :
    session.Continues (session.unmatched error sentence) :=
  continues_of_profile_eq (List.Sublist.refl _) (fun _ => rfl) rfl

/-- A receipt belongs to no request. -/
theorem continues_receipt
    (receipt : Option Text)
    (session : Session Λ) :
    session.Continues (session.note (.cancelled receipt)) := by
  refine continues_of_profile_eq (List.Sublist.refl _) (fun _ => rfl) ?_
  simp [callbackCalls, Call.tag?]

theorem continues_remove
    (tag : Text)
    (session : Session Λ) :
    session.Continues (session.remove tag) :=
  continues_of_profile_eq (Assoc.erase_sublist tag session.dispatcher.pending) (fun _ => rfl) rfl

theorem continues_cutOff
    (error : Error)
    (session : Session Λ) :
    session.Continues (session.cutOff error) :=
  continues_of_profile_eq (List.nil_sublist _) (fun _ => rfl) rfl

theorem continues_modify
    {change : Request → Request}
    (profile_eq : ∀ request, session.request? number = some request →
      (change request).profile = request.profile) :
    session.Continues (session.modify number change) := by
  refine continues_of_profile_eq (List.Sublist.refl _) ?_ rfl
  intro other
  rw [request?_modify]
  by_cases same : number = other
  · subst same
    rw [if_pos rfl]
    cases known : session.request? number with
    | none => rfl
    | some request => exact congrArg some (profile_eq request known)
  · rw [if_neg same]

/-- A sentence is delivered to an incomplete request. -/
theorem serves_note
    (known : session.request? number = some request)
    (incomplete : request.isDone = false)
    (sentence : Sentence) :
    Serves number request request (some (.delivered request.tag sentence)) session
      (session.note (.delivered request.tag sentence)) where
  known := known
  incomplete := incomplete
  current := known
  others _ _ := rfl
  pending_eq := rfl
  tag_eq := rfl
  calls_eq := by simp [callbackCalls, Call.tag?]
  tagged call same := by
    cases same
    rfl
  announced := by
    rw [Request.announcement_of_incomplete incomplete]
    rfl
  listed := .inl incomplete

/-- An incomplete request that is not registered any more is completed. -/
theorem serves_conclude
    (known : session.request? number = some request)
    (incomplete : request.isDone = false)
    (unlisted : session.IsUnlisted number)
    (error : Option Error) :
    Serves number request { request with outcome := some error }
      ({ request with outcome := some error } : Request).announcement session
      (session.conclude number request error) where
  known := known
  incomplete := incomplete
  current := by simp [request?_conclude, known]
  others other different := by simp [request?_conclude, Ne.symm different]
  pending_eq := by rw [dispatcher_conclude]; rfl
  tag_eq := rfl
  calls_eq := by
    unfold Session.conclude
    split
    · rename_i handler
      simp [callbackCalls, Request.announcement, handler, Handler.announces, Call.tag?]
    · rename_i handler
      simp [callbackCalls, Request.announcement, handler, Handler.announces]
    · rename_i handler
      simp [callbackCalls, Request.announcement, handler, Handler.announces]
  tagged _ announced := (Request.tag?_of_announcement announced).1
  announced := by
    cases announced : ({ request with outcome := some error } : Request).announcement with
    | none => rfl
    | some call => simp [(Request.tag?_of_announcement announced).2]
  listed := .inr unlisted

/-- A new request has no calls yet. -/
theorem continues_make
    (incomplete : request.isDone = false)
    (session : Session Λ) :
    session.Continues { session with dispatcher := (session.dispatcher.adopt request).2 } := by
  intro ledger books
  have keeps {number found} (known : session.request? number = some found) :
      (session.dispatcher.adopt request).2.request? number = some found := by
    have lower := (List.getElem?_eq_some_iff.mp known).1
    exact (Dispatcher.request?_adopt_of_lt request _ lower).trans known
  refine ⟨[], ?_⟩
  rw [List.append_nil]
  refine
    { distinct := books.distinct
      entry := ?_
      recorded := books.recorded
      owned := ?_
      completions := ?_
      final := books.final }
  · intro tag number member
    obtain ⟨found, known, kept⟩ := books.entry member
    exact ⟨found, keeps known, kept⟩
  · intro number call member
    obtain ⟨found, known, tag_eq⟩ := books.owned member
    exact ⟨found, keeps known, tag_eq⟩
  · intro number found known
    rcases Dispatcher.request?_adopt_eq_some known with earlier | ⟨rfl, rfl⟩
    · exact books.completions earlier
    · have unknown : session.request? session.dispatcher.requests.length = none :=
        List.getElem?_eq_none (Nat.le_refl _)
      rw [books.completionsOf_eq_nil unknown, Request.announcement_of_incomplete incomplete,
        Option.toList_none]

/-- An incomplete request is registered under its tag. -/
theorem continues_register
    {dispatcher : Dispatcher}
    (known : session.request? number = some request)
    (incomplete : request.isDone = false)
    (registered : session.dispatcher.register number = .ok dispatcher) :
    session.Continues { session with dispatcher } := by
  obtain ⟨-, free, rfl⟩ := (Dispatcher.register_eq_ok_iff known).mp registered
  intro ledger books
  refine ⟨[], ?_⟩
  rw [List.append_nil]
  refine
    { distinct := Assoc.nodup_keys_set books.distinct _ _
      entry := ?_
      recorded := books.recorded
      owned := books.owned
      completions := books.completions
      final := books.final }
  intro tag other member
  rw [Assoc.set_of_get?_eq_none free] at member
  rcases List.mem_append.mp member with member | member
  · exact books.entry member
  · cases List.mem_singleton.mp member
    exact ⟨request, known, rfl, incomplete⟩

/-- A request is unlisted once the entry of its tag has been removed. -/
theorem CompletesOnce.isUnlisted_remove
    (books : CompletesOnce ledger session)
    (known : session.request? number = some request) :
    (session.remove request.tag).IsUnlisted number := by
  intro tag member
  obtain ⟨found, foundKnown, rfl, -⟩ := books.entry (Assoc.mem_of_mem_erase member)
  cases Option.some.inj (known.symm.trans foundKnown)
  have absent := Assoc.get?_erase_self books.distinct request.tag
  rw [Assoc.get?_eq_none_iff] at absent
  exact absent (List.mem_map_of_mem member)

/-! ## Operations -/

variable {close : Session Λ → Session Λ} {host : Host Λ}

/-- Completing a request that is not registered any more books its completion, and whatever its
callback does. -/
theorem continues_finish
    (closes : ∀ session : Session Λ, session.Continues (close session))
    (unlisted : session.IsUnlisted number)
    (error : Option Error) :
    session.Continues (session.finish close number error).2 := by
  have finishes := finishes_finish close number error session
  generalize (session.finish close number error).2 = after at finishes ⊢
  cases finishes with
  | idle => exact .refl _
  | announced known incomplete => exact (serves_conclude known incomplete unlisted error).continues
  | marked known incomplete handler offered =>
      refine (serves_conclude known incomplete unlisted error).continues.trans (continues_modify ?_)
      intro current currentKnown
      rw [request?_conclude, request?_modify, if_pos rfl, known] at currentKnown
      cases currentKnown
      simp [Request.profile, handler, Handler.announces]
  | declined known incomplete =>
      exact (serves_conclude known incomplete unlisted error).continues.trans
        (continues_receipt none _)
  | closed known incomplete =>
      exact (serves_conclude known incomplete unlisted error).continues.trans (closes _)

theorem continues_finishLogged
    (closes : ∀ session : Session Λ, session.Continues (close session))
    (unlisted : session.IsUnlisted number)
    (label : Text)
    (error : Option Error) :
    session.Continues (session.finishLogged close label number error) := by
  have finished := continues_finish closes unlisted error
  rcases finishLogged_eq close label number error session with same | same
  · rwa [same]
  · rw [same]
    exact finished.trans (continues_log _ _ _ _)

theorem HasFailed.isUnlisted
    {failure : Error}
    (failed : session.HasFailed failure)
    (number : Nat) :
    session.IsUnlisted number := by
  intro tag
  rw [failed.2]
  exact List.not_mem_nil

/-- Completing several requests of a session that has failed, one after the other. Closing keeps it
failed, so none of them is registered meanwhile. -/
theorem continues_failEach
    {failure : Error}
    (closes : ∀ session, Reaches session (close session))
    (continues : ∀ session : Session Λ, session.Continues (close session))
    (error : Error)
    (entries : List (Text × Nat))
    (failed : session.HasFailed failure) :
    session.Continues (session.failEach close error entries) := by
  induction entries generalizing session with
  | nil => exact .refl _
  | cons entry rest inductionHypothesis =>
      have first :=
        continues_finishLogged continues (failed.isUnlisted entry.2) entry.1 (some error)
      -- Whatever the callback did, it cannot have registered any of the others again.
      have stillFailed :
          (session.finishLogged close entry.1 entry.2 (some error)).HasFailed failure :=
        (persists_hasFailed failure).finishLogged ((persists_hasFailed failure).reaches (closes _))
          _ _ trivial failed
      exact first.trans (inductionHypothesis stillFailed)

theorem continues_failAll
    (closes : ∀ session, Reaches session (close session))
    (continues : ∀ session : Session Λ, session.Continues (close session))
    (error : Error)
    (session : Session Λ) :
    session.Continues (session.failAll close error) :=
  (continues_cutOff error session).trans
    (continues_failEach closes continues error _ (hasFailed_cutOff error session))

theorem continues_cancelRequest
    {cancel : Text → Session Λ → Except Error Text × Session Λ}
    (continues : ∀ tag (session : Session Λ), session.Continues (cancel tag session).2)
    (number : Nat)
    (session : Session Λ) :
    session.Continues (session.cancelRequest cancel number).2 := by
  have cancels := cancels_cancelRequest cancel number session
  generalize (session.cancelRequest cancel number).2 = after at cancels ⊢
  cases cancels with
  | idle => exact .refl _
  | @asked request =>
      have marked : session.Continues
          (session.modify number fun request => { request with cancelled := true }) :=
        continues_modify fun _ _ => rfl
      exact marked.trans (continues request.tag _)

/-- Handing a data sentence to an incomplete request books the call of its callback, and whatever
that does. -/
theorem Delivers.continues
    {sentence : Sentence}
    {delivery : Delivery}
    (cancels : ∀ tag (session : Session Λ), session.Continues (host.cancel tag session).2)
    (closes : ∀ session : Session Λ, session.Continues (host.close session))
    (delivers : Delivers host number sentence session delivery after)
    (current : session.request? number = some request)
    (incomplete : request.isDone = false) :
    session.Continues after := by
  have called := (serves_note current incomplete sentence).continues
  cases delivers with
  | ignored | refused | stalled => exact .refl _
  | queued known handler offered =>
      refine continues_modify ?_
      intro found foundKnown
      cases Option.some.inj (known.symm.trans foundKnown)
      simp [Request.profile, handler, Handler.announces]
  | discarded => exact (continues_relink _ _).trans (continues_log _ _ _ _)
  | called known | failed known =>
      cases Option.some.inj (known.symm.trans current)
      exact called
  | closed known =>
      cases Option.some.inj (known.symm.trans current)
      exact called.trans (closes _)
  | cancelled known handler cancelled =>
      cases Option.some.inj (known.symm.trans current)
      have asked := called.trans (continues_cancelRequest cancels number _)
      rw [cancelled] at asked
      exact asked.trans (continues_receipt _ _)
  | notCancelled known handler cancelled =>
      cases Option.some.inj (known.symm.trans current)
      have asked := called.trans (continues_cancelRequest cancels number _)
      rwa [cancelled] at asked

/-- A request is completed after its entry has been removed. -/
theorem continues_release
    (closes : ∀ session : Session Λ, session.Continues (close session))
    (known : session.request? number = some request)
    (label : Text)
    (error : Option Error) :
    session.Continues ((session.remove request.tag).finishLogged close label number error) := by
  intro ledger books
  have unlisted := books.isUnlisted_remove known
  exact (continues_remove request.tag session).trans
    (continues_finishLogged closes unlisted label error) ledger books

theorem continues_abandon
    (closes : ∀ session : Session Λ, session.Continues (host.close session))
    (known : session.request? number = some request)
    (error : Error) :
    session.Continues (session.abandon host request.tag number error) := by
  unfold Session.abandon
  refine (continues_log .error .request _ session).trans (continues_release closes ?_ _ _)
  exact known

theorem continues_retire
    (closes : ∀ session : Session Λ, session.Continues (host.close session))
    (known : session.request? number = some request) :
    session.Continues (session.retire host request.tag number) := by
  have removed : (session.remove request.tag).request? number = some request := known
  simp only [Session.retire, removed]
  exact continues_release closes known request.tag request.finalError

section Dispatch

variable
  (cancels : ∀ tag session, Reaches session (host.cancel tag session).2)
  (closes : ∀ session, Reaches session (host.close session))
  (cancelsContinue : ∀ tag (session : Session Λ), session.Continues (host.cancel tag session).2)
  (closesContinue : ∀ session : Session Λ, session.Continues (host.close session))

include cancels closes cancelsContinue closesContinue

theorem continues_feed
    {tag : Text}
    (found : session.lookup? tag = some number)
    (sentence : Sentence) :
    session.Continues (session.feed host tag number sentence).2 := by
  intro ledger books
  obtain ⟨request, known, rfl, incomplete⟩ := books.entry (Assoc.mem_of_get?_eq_some found)
  have feeds := feeds_feed host request.tag number sentence session
  have folded : session.Continues (session.modify number fun request =>
      { request with reply := request.reply.process sentence }) :=
    continues_modify fun _ _ => rfl
  have current : (session.modify number fun request =>
      { request with reply := request.reply.process sentence }).request? number =
        some { request with reply := request.reply.process sentence } := by
    simp [known]
  generalize (session.feed host request.tag number sentence).2 = after at feeds ⊢
  refine folded.trans ?_ ledger books
  cases feeds with
  | collected => exact .refl _
  | delivered delivers => exact delivers.continues cancelsContinue closesContinue current incomplete
  | abandoned delivers =>
      -- The callback may have completed the request already, but not have changed its tag.
      have delivered := delivers.continues cancelsContinue closesContinue current incomplete
      obtain ⟨now, nowKnown, tag_eq, -⟩ := delivers.keeps cancels closes number _ current
      have abandoned := continues_abandon closesContinue nowKnown
      rw [tag_eq] at abandoned
      exact delivered.trans (abandoned _)
  | retired =>
      have retired := continues_retire closesContinue current
      exact retired

theorem continues_dispatch
    (sentence : Sentence)
    (session : Session Λ) :
    session.Continues (session.dispatch host sentence).2 := by
  have dispatches := dispatches_dispatch host sentence session
  generalize (session.dispatch host sentence).2 = after at dispatches ⊢
  cases dispatches with
  | skipped => exact .refl _
  | unmatched error => exact continues_unmatched error sentence session
  | fed found => exact continues_feed cancels closes cancelsContinue closesContinue found sentence

end Dispatch

/-! ## Runs -/

/-- A run continues the books. -/
theorem Reaches.continues (reaches : Reaches session after) : session.Continues after := by
  induction reaches with
  | refl => exact .refl _
  | trans _ _ earlier later => exact earlier.trans later
  | relink link => exact continues_relink link _
  | log level source message => exact continues_log level source message _
  | mint => exact continues_of_profile_eq (List.Sublist.refl _) (fun _ => rfl) rfl
  | make request incomplete => exact continues_make incomplete _
  | register _ known incomplete registered => exact continues_register known incomplete registered
  | remove tag => exact continues_remove tag _
  | dispatch cancels closes sentence cancelsContinue closesContinue =>
      exact continues_dispatch cancels closes cancelsContinue closesContinue sentence _
  | failAll closes error closesContinue => exact continues_failAll closes closesContinue error _
  | cancel _ number cancelsContinue => exact continues_cancelRequest cancelsContinue number _

/-- The books of a session that is reached from a new one. -/
theorem Reaches.exists_ledger
    {link : Λ}
    (reached : Reaches { link } session) :
    ∃ ledger, CompletesOnce ledger session :=
  reached.continues [] (completesOnce_fresh link)

/-! ## Journals -/

/-- The calls that are booked under a number. -/
def Ledger.callsUnder
    (number : Nat)
    (ledger : Ledger) : List Call :=
  (ledger.filter fun entry => entry.1 == number).map Prod.snd

/-- If no other request has the tag of a request, the calls booked under its number are those that
the journal has for its tag. -/
theorem CompletesOnce.callsOf_eq
    (books : CompletesOnce ledger session)
    (known : session.request? number = some request)
    (unique : ∀ other found, session.request? other = some found → found.tag = request.tag →
      other = number) :
    session.callsOf request.tag = ledger.callsUnder number := by
  have recorded := books.recorded
  have tagged : session.callsOf request.tag =
      session.callbackCalls.filter (·.tag? == some request.tag) := by
    rw [callsOf, callbackCalls, List.filter_filter]
    refine List.filter_congr ?_
    intro call _
    cases call.tag? with
    | none => rfl
    | some tag => simp
  rw [tagged, recorded, Ledger.callsUnder, List.filter_map]
  refine congrArg (List.map Prod.snd) (List.filter_congr ?_)
  rintro ⟨other, call⟩ member
  obtain ⟨owner, ownerKnown, tag_eq⟩ := books.owned member
  by_cases same : other = number
  · subst same
    cases Option.some.inj (known.symm.trans ownerKnown)
    simp [tag_eq]
  · have different : owner.tag ≠ request.tag := fun tag_eq => same (unique _ _ ownerKnown tag_eq)
    have tag_ne : (owner.tag == request.tag) = false := beq_eq_false_iff_ne.mpr different
    have number_ne : (other == number) = false := beq_eq_false_iff_ne.mpr same
    simp [tag_eq, tag_ne, number_ne]

end Session
end RouterApi
