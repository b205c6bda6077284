import RouterApi.Proofs.Isolation.Service

/-!
# Runs of sentences

A run dispatches sentences one after the other. Each sentence serves at most the request registered
for its tag, and those that reach no request are counted. What a run makes of a request is what its
account makes of the sentences of its tag, so runs with the same sentences of a tag agree on its
request.
-/

namespace RouterApi
namespace Session

variable {Λ : Type}

/-- Dispatch sentences one after the other. -/
def dispatchAll
    (host : Host Λ) : List Sentence → Session Λ → List Dispatched × Session Λ
  | [], session => ([], session)
  | sentence :: later, session =>
      let (dispatched, session) := session.dispatch host sentence
      let (others, session) := dispatchAll host later session
      (dispatched :: others, session)

/-- Whether a sentence reaches no registered request. An untagged sentence with an empty first word
is not counted. -/
def isStray
    (sentence : Sentence)
    (session : Session Λ) : Bool :=
  match sentence.tag with
  | none => sentence.control != .blank
  | some tag => (session.lookup? tag).isNone

/-- Whether a sentence is addressed to the request of a number. -/
def addresses
    (number : Nat)
    (sentence : Sentence)
    (session : Session Λ) : Prop :=
  sentence.tag.bind (session.lookup? ·) = some number

/-- How many sentences reach no registered request at the time when they are dispatched. -/
def strayCount
    (host : Host Λ) : List Sentence → Session Λ → Nat
  | [], _ => 0
  | sentence :: later, session =>
      (session.isStray sentence).toNat + strayCount host later (session.dispatch host sentence).2

/-- A run of sentences is undisturbed if the session is confined, its host is ready for as many
cancellations, and none of the sentences ends the connection. -/
structure Undisturbed
    (Ready : Nat → Session Λ → Prop)
    (sentences : List Sentence)
    (session : Session Λ) : Prop where
  confined : session.IsConfined
  ready : Ready sentences.length session
  peaceful : ∀ sentence ∈ sentences, sentence.control ≠ .fatal

/-- Two runs agree on a request if they leave it in the same state, outstanding or not, and make the
same calls of its callbacks in the same order. -/
structure Agree
    (tag : Text)
    (number otherNumber : Nat)
    (before after otherBefore otherAfter : Session Λ) : Prop where
  request_eq : after.request? number = otherAfter.request? otherNumber
  outstanding_eq : (after.lookup? tag).isSome = (otherAfter.lookup? tag).isSome
  calls_eq : ∃ calls, after.callsOf tag = before.callsOf tag ++ calls ∧
    otherAfter.callsOf tag = otherBefore.callsOf tag ++ calls

variable
  {host : Host Λ}
  {Ready : Nat → Session Λ → Prop}
  {before middle after : Session Λ}
  {number : Nat}

theorem dispatchAll_cons_of_handled
    {sentence : Sentence}
    (handled : before.dispatch host sentence = (.handled, middle))
    (later : List Sentence) :
    before.dispatchAll host (sentence :: later) =
      (.handled :: (middle.dispatchAll host later).1, (middle.dispatchAll host later).2) := by
  simp [dispatchAll, handled]

/-! ## Accounts of other requests -/

/-- The account of a request holds on while another request is served. -/
theorem Spares.holds
    {served : Nat}
    {tag : Text}
    (spares : Spares served tag before after)
    {account : Account}
    (holds : before.Holds number account)
    (otherTag : account.request.tag ≠ tag)
    (otherNumber : number ≠ served) :
    after.Holds number account where
  request_eq := spares.request_eq otherNumber holds.request_eq
  lookup_eq := by
    cases outstanding : account.isOutstanding with
    | true =>
        have entry := holds.lookup_eq
        rw [outstanding] at entry
        exact spares.lookup_eq otherTag entry
    | false =>
        have absent := holds.lookup_eq
        rw [outstanding] at absent
        cases found : after.lookup? account.request.tag with
        | none => rfl
        | some current =>
            rcases spares.entry found with earlier | addition
            · rw [earlier] at absent
              contradiction
            · exact absurd rfl (addition.fresh holds.request_eq)
  calls_eq := (spares.calls_eq otherTag).trans holds.calls_eq

/-- A registered request has an outstanding account. -/
theorem Registers.holds
    {request : Request}
    (registered : before.Registers number request) :
    before.Holds number { request, calls := before.callsOf request.tag } :=
  ⟨registered.request_eq, registered.lookup_eq, rfl⟩

/-- Outstanding accounts of the same tag are the same. -/
theorem Holds.eq_of_registers
    {account : Account}
    {request : Request}
    {other : Nat}
    (holds : before.Holds number account)
    (registered : before.Registers other request)
    (sameTag : account.request.tag = request.tag) :
    number = other ∧ account = { request, calls := before.callsOf request.tag } := by
  have lookup_eq := holds.lookup_eq
  rw [sameTag, registered.lookup_eq] at lookup_eq
  obtain ⟨held, isOutstanding, calls⟩ := account
  cases isOutstanding with
  | false => simp at lookup_eq
  | true =>
      have number_eq : other = number := Option.some.inj lookup_eq
      subst number_eq
      have request_eq : some held = some request :=
        holds.request_eq.symm.trans registered.request_eq
      cases request_eq
      have calls_eq : before.callsOf request.tag = calls := holds.calls_eq
      exact ⟨rfl, by rw [calls_eq]⟩

/-! ## One step -/

/-- Sentences advance a session if every account receives those of its tag, and the strays among
them are counted. Each of them may use up one cancellation. -/
structure Advances
    (Ready : Nat → Session Λ → Prop)
    (sentences : List Sentence)
    (strays : Nat)
    (before after : Session Λ) : Prop where
  isConfined : after.IsConfined
  ready : ∀ {count}, Ready (count + sentences.length) before → Ready count after
  unmatched_eq : after.dispatcher.unmatched = before.dispatcher.unmatched + strays
  holds : ∀ {number account}, before.Holds number account →
    after.Holds number (account.receiveAll sentences)

theorem isPartOf_unmatched
    (error : Error)
    (sentence : Sentence)
    (session : Session Λ) :
    (session.unmatched error sentence).IsPartOf session :=
  ⟨rfl, rfl, rfl, fun found => ⟨_, _, found, rfl⟩⟩

theorem IsConfined.unmatched
    (confined : before.IsConfined)
    (error : Error)
    (sentence : Sentence) :
    (before.unmatched error sentence).IsConfined :=
  ⟨⟨confined.distinct, confined.owned⟩, confined.handler⟩

theorem Holds.unmatched
    {account : Account}
    (holds : before.Holds number account)
    (error : Error)
    (sentence : Sentence) :
    (before.unmatched error sentence).Holds number account :=
  ⟨holds.request_eq, holds.lookup_eq, holds.calls_eq⟩

/-- An account whose tag is not in the table does not receive any sentence. -/
theorem Holds.receiveAll_of_lookup?_eq_none
    {account : Account}
    (holds : before.Holds number account)
    {sentence : Sentence}
    (unreached : ∀ tag, sentence.tag = some tag → before.lookup? tag = none) :
    account.receiveAll [sentence] = account := by
  rw [Account.receiveAll_cons]
  split
  · rename_i own
    have lookup_eq := holds.lookup_eq
    rw [unreached _ own] at lookup_eq
    have retired : account.isOutstanding = false := by
      cases outstanding : account.isOutstanding with
      | false => rfl
      | true => simp [outstanding] at lookup_eq
    simp [Account.receive, retired]
  · rfl

/-- A sentence that reaches no request is at most counted. -/
theorem advances_unmatched
    (discreet : host.IsDiscreet Ready)
    (confined : before.IsConfined)
    {sentence : Sentence}
    (unreached : ∀ tag, sentence.tag = some tag → before.lookup? tag = none)
    (error : Error) :
    Advances Ready [sentence] 1 before (before.unmatched error sentence) where
  isConfined := confined.unmatched error sentence
  ready ready := discreet.part (isPartOf_unmatched error sentence before) (discreet.fewer ready)
  unmatched_eq := rfl
  holds holds := by
    rw [holds.receiveAll_of_lookup?_eq_none unreached]
    exact holds.unmatched error sentence

/-- An untagged sentence with an empty first word has no effect. -/
theorem advances_blank
    (discreet : host.IsDiscreet Ready)
    (confined : before.IsConfined)
    {sentence : Sentence}
    (untagged : sentence.tag = none) :
    Advances Ready [sentence] 0 before before where
  isConfined := confined
  ready ready := discreet.fewer ready
  unmatched_eq := rfl
  holds holds := by
    rwa [holds.receiveAll_of_lookup?_eq_none (by simp [untagged])]

/-- A turn of the request of a tag advances the session by one sentence of that tag. -/
theorem Turn.advances
    {request : Request}
    {sentence : Sentence}
    (confined : before.IsConfined)
    (registered : before.Registers number request)
    (own : sentence.tag = some request.tag)
    (turn : Turn Ready 1 number before { request, calls := before.callsOf request.tag } after
      (Account.receive { request, calls := before.callsOf request.tag } sentence)) :
    Advances Ready [sentence] 0 before after where
  isConfined := turn.spares.isConfined confined
  ready := turn.ready
  unmatched_eq := turn.spares.unmatched_eq
  holds {other account} holds := by
    rw [Account.receiveAll_cons, own]
    by_cases sameTag : account.request.tag = request.tag
    · obtain ⟨rfl, rfl⟩ := holds.eq_of_registers registered sameTag
      simpa using turn.holds
    · rw [if_neg (by simpa using Ne.symm sameTag)]
      apply turn.spares.holds holds sameTag
      rintro rfl
      have request_eq := holds.request_eq.symm.trans registered.request_eq
      exact sameTag (congrArg Request.tag (Option.some.inj request_eq))

/-- A sentence that does not end the connection is dealt with. It advances the session, and changes
at most the request that it is addressed to. -/
theorem advances_dispatch
    (discreet : host.IsDiscreet Ready)
    (confined : before.IsConfined)
    (ready : Ready 1 before)
    {sentence : Sentence}
    (peaceful : sentence.control ≠ .fatal) :
    ∃ after, before.dispatch host sentence = (.handled, after) ∧
      Advances Ready [sentence] (before.isStray sentence).toNat before after ∧
      ∀ {other request}, ¬ before.addresses other sentence →
        before.request? other = some request → after.request? other = some request := by
  unfold dispatch isStray addresses
  cases tag_eq : sentence.tag with
  | none =>
      have unreached : ∀ tag, sentence.tag = some tag → before.lookup? tag = none := by
        simp [tag_eq]
      cases control : sentence.control with
      | fatal => exact absurd control peaceful
      | blank => exact ⟨before, rfl, advances_blank discreet confined tag_eq, fun _ known => known⟩
      | data | done | empty | trap | unknown =>
          exact ⟨_, rfl, advances_unmatched discreet confined unreached .untagged,
            fun _ known => known⟩
  | some tag =>
      simp only
      cases found : before.lookup? tag with
      | none =>
          have unreached : ∀ tag, sentence.tag = some tag → before.lookup? tag = none := by
            simp [tag_eq, found]
          exact ⟨_, rfl, advances_unmatched discreet confined unreached (.unregistered tag),
            fun _ known => known⟩
      | some number =>
          obtain ⟨request, request_eq, rfl⟩ := confined.owned found
          have registered : before.Registers number request := ⟨found, request_eq⟩
          obtain ⟨after, fed, turn⟩ := turn_feed discreet confined.toIsSound ready
            registered.holds rfl (confined.handler found request_eq) peaceful
          refine ⟨after, fed, turn.advances confined registered tag_eq, ?_⟩
          intro other unserved elsewhere known
          refine turn.spares.request_eq ?_ known
          rintro rfl
          exact elsewhere found

/-! ## Whole runs -/

theorem Advances.refl (confined : before.IsConfined) : Advances Ready [] 0 before before where
  isConfined := confined
  ready := id
  unmatched_eq := rfl
  holds := id

theorem Advances.cons
    {sentence : Sentence}
    {later : List Sentence}
    {strays laterStrays : Nat}
    (first : Advances Ready [sentence] strays before middle)
    (rest : Advances Ready later laterStrays middle after) :
    Advances Ready (sentence :: later) (strays + laterStrays) before after where
  isConfined := rest.isConfined
  ready ready := rest.ready (first.ready ready)
  unmatched_eq := by rw [rest.unmatched_eq, first.unmatched_eq, Nat.add_assoc]
  holds {number account} holds := by
    have held := rest.holds (first.holds holds)
    rw [Account.receiveAll_cons] at held ⊢
    by_cases own : sentence.tag = some account.request.tag
    · simpa [own] using held
    · simpa [own] using held

/-- An undisturbed run deals with all sentences. -/
theorem advances_dispatchAll
    (discreet : host.IsDiscreet Ready)
    {sentences : List Sentence}
    (undisturbed : before.Undisturbed Ready sentences) :
    (∀ dispatched ∈ (before.dispatchAll host sentences).1, dispatched = .handled) ∧
      Advances Ready sentences (before.strayCount host sentences) before
        (before.dispatchAll host sentences).2 := by
  induction sentences generalizing before with
  | nil => exact ⟨by simp [dispatchAll], Advances.refl undisturbed.confined⟩
  | cons sentence later inductionHypothesis =>
      obtain ⟨confined, ready, peaceful⟩ := undisturbed
      obtain ⟨peacefulFirst, peacefulLater⟩ := List.forall_mem_cons.mp peaceful
      have readyFirst : Ready 1 before := discreet.atLeast (Nat.le_add_left 1 later.length) ready
      obtain ⟨middle, handled, first, -⟩ :=
        advances_dispatch discreet confined readyFirst peacefulFirst
      obtain ⟨allHandled, rest⟩ :=
        inductionHypothesis ⟨first.isConfined, first.ready ready, peacefulLater⟩
      rw [dispatchAll_cons_of_handled handled, strayCount, handled]
      exact ⟨List.forall_mem_cons.mpr ⟨rfl, allHandled⟩, first.cons rest⟩

/-! ## Agreement -/

/-- What an undisturbed run makes of a registered request is what its account makes of the
sentences. -/
theorem holds_dispatchAll
    (discreet : host.IsDiscreet Ready)
    {sentences : List Sentence}
    {request : Request}
    (undisturbed : before.Undisturbed Ready sentences)
    (registered : before.Registers number request) :
    (before.dispatchAll host sentences).2.Holds number
      ((Account.receiveAll sentences { request }).precededBy (before.callsOf request.tag)) := by
  have held := (advances_dispatchAll discreet undisturbed).2.holds registered.holds
  rw [← Account.receiveAll_precededBy]
  simpa [Account.precededBy] using held

theorem Holds.agree
    {other otherAfter : Session Λ}
    {otherNumber : Nat}
    {account : Account}
    (holds : after.Holds number (account.precededBy (before.callsOf account.request.tag)))
    (otherHolds : otherAfter.Holds otherNumber
      (account.precededBy (other.callsOf account.request.tag))) :
    Agree account.request.tag number otherNumber before after other otherAfter where
  request_eq := holds.request_eq.trans otherHolds.request_eq.symm
  outstanding_eq := by
    have lookup_eq := holds.lookup_eq
    have other_eq := otherHolds.lookup_eq
    simp only [Account.precededBy] at lookup_eq other_eq
    rw [lookup_eq, other_eq]
    by_cases outstanding : account.isOutstanding = true
    · simp [outstanding]
    · simp [outstanding]
  calls_eq := ⟨account.calls, holds.calls_eq, otherHolds.calls_eq⟩

/-- Undisturbed runs with the same sentences of its tag agree on a request. -/
theorem agree_of_filter_eq
    (discreet : host.IsDiscreet Ready)
    {sentences others : List Sentence}
    {other : Session Λ}
    {otherNumber : Nat}
    {request : Request}
    (undisturbed : before.Undisturbed Ready sentences)
    (otherUndisturbed : other.Undisturbed Ready others)
    (registered : before.Registers number request)
    (otherRegistered : other.Registers otherNumber request)
    (sameSentences :
      sentences.filter (·.tag == some request.tag) = others.filter (·.tag == some request.tag)) :
    Agree request.tag number otherNumber before (before.dispatchAll host sentences).2
      other (other.dispatchAll host others).2 := by
  have holds := holds_dispatchAll discreet undisturbed registered
  have otherHolds := holds_dispatchAll discreet otherUndisturbed otherRegistered
  have sameAccount : Account.receiveAll others { request } =
      Account.receiveAll sentences { request } := by
    simp only [Account.receiveAll, sameSentences]
  have tag_eq := Account.tag_receiveAll sentences { request }
  rw [sameAccount] at otherHolds
  rw [← tag_eq] at holds otherHolds ⊢
  exact holds.agree otherHolds

end Session
end RouterApi
