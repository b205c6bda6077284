import RouterApi.Proofs.Client.Answering
import RouterApi.Proofs.Client.Ending
import RouterApi.Proofs.Client.Incidents
import RouterApi.Proofs.Session.Listener

/-!
# Reading from a listener

The reader of a connection hands sentences to a listener, a caller takes them from its queue, and
the listener is completed, all in any order. What has been read, followed by what is still queued,
is what was handed over, without loss or duplication. A sentence is only discarded when the queue is
full and the connection is closed. After its completion the rest can be read, and nothing after
that.
-/

namespace RouterApi

/-- A data sentence that was handed to a listener: whether it changed the queue, whether it found
the queue full, and whether it found the connection closed. -/
structure Handover where
  sentence : Sentence
  isQueued : Bool
  foundFull : Bool
  foundClosed : Bool
  deriving DecidableEq

/-- A client with a listener, the sentences that were handed to the listener, and those that were
read from it. -/
structure Listening where
  client : Client
  handed : List Handover := []
  yielded : List Sentence := []

namespace Listening

/-- The sentences that were handed to the listener and put into its queue. -/
def kept (state : Listening) : List Sentence :=
  (state.handed.filter Handover.isQueued).map Handover.sentence

/-- Whether the listener is complete. -/
def isDone
    (number : Nat)
    (state : Listening) : Bool :=
  (state.client.request? number).any Request.isDone

/-- One thing that happens to a listener. A sentence is dispatched; a caller reads the next
sentence, or all of them; and the outstanding requests are completed because the connection is lost
or closed. Closing takes two steps: the connection counts as closed before the requests are
completed. -/
inductive Event
  | dispatch (sentence : Sentence)
  | next
  | iterate
  | failAll (error : Error)
  | beginClose
  | endClose

/-- A dispatched sentence is handed to the listener if it is one of data, and its tag leads
there. -/
def isHanded
    (number : Nat)
    (sentence : Sentence)
    (before : Client) : Bool :=
  sentence.control = .data && sentence.tag.bind (before.lookup? ·) = some number

/-- What became of a sentence that was handed to the listener. -/
def handover
    (number : Nat)
    (sentence : Sentence)
    (before after : Client) : Handover where
  sentence := sentence
  isQueued := after.queue? number ≠ before.queue? number
  foundFull := (before.queue? number).any (·.offer (some sentence) = .full)
  foundClosed := before.link.isClosed

/-- The state after an event. A sentence that has to wait for room in the queue is not dispatched,
and a caller that has to wait for more sentences reads nothing. -/
def undergo
    (number : Nat)
    (state : Listening) : Event → Listening
  | .dispatch sentence =>
      match state.client.dispatch Client.readerHost sentence with
      | (.stalled _, _) => state
      | (_, after) =>
          { state with
            client := after
            handed := state.handed ++
              if isHanded number sentence state.client then
                [handover number sentence state.client after]
              else [] }
  | .next =>
      match Session.takeNext? number state.client with
      | some (.sentence sentence, after) =>
          { state with client := after, yielded := state.yielded ++ [sentence] }
      | some (_, after) => { state with client := after }
      | none => state
  | .iterate =>
      match Session.takeAll? number state.client with
      | some (some sentences, after) =>
          { state with client := after, yielded := state.yielded ++ sentences }
      | some (none, _) | none => state
  | .failAll error => { state with client := Session.failAll Client.shutDown error state.client }
  | .beginClose =>
      if state.client.link.isClosed then state
      else { state with client := state.client.closing }
  | .endClose =>
      if state.client.link.isClosed then
        { state with client := Session.failAll id (.closed .byCaller) state.client }
      else state

/-- The state after several events. -/
def undergoAll
    (number : Nat)
    (events : List Event)
    (state : Listening) : Listening :=
  events.foldl (undergo number) state

/-- Closing an open connection is beginning and ending to close it. -/
theorem shutDown_eq_undergoAll
    (number : Nat)
    {client : Client}
    (isOpen : client.link.isClosed = false) :
    (undergoAll number [.beginClose, .endClose] { client }).client = client.shutDown := by
  have isClosed : client.closing.link.isClosed = true := rfl
  simp only [undergoAll, List.foldl, undergo, isOpen, Bool.false_eq_true, if_false, isClosed,
    if_true, Client.shutDown]
  rfl

/-- An event is about a tag if it does not dispatch a sentence of another one. -/
def Event.IsAbout
    (tag : Text)
    (event : Event) : Prop :=
  ∀ sentence, event = .dispatch sentence → sentence.tag = some tag

variable
  {number : Nat}
  {tag : Text}
  {capacity : Capacity}
  {state : Listening}
  {isDone : Bool}
  {queued : List Sentence}

/-! ## The account of a listener -/

/-- The account of a listener is balanced: what has been read and what is queued is what was put
into the queue, and whatever was not put there found the queue full and the connection closed. -/
structure IsBalanced
    (number : Nat)
    (tag : Text)
    (capacity : Capacity)
    (state : Listening)
    (isDone : Bool)
    (queued : List Sentence) : Prop where
  sound : state.client.IsSound
  listener : state.client.IsListener number tag capacity isDone queued
  inOrder : state.yielded ++ queued = state.kept
  discarded : ∀ handover ∈ state.handed, handover.isQueued = false →
    handover.foundFull = true ∧ handover.foundClosed = true
  bounded : ∀ handover ∈ state.handed, handover.foundFull = true →
    ∃ count, capacity = .atMost count

/-- Later states: more may have been read, and a listener that was complete still is, and has not
been handed anything. -/
structure Precedes
    (number : Nat)
    (tag : Text)
    (capacity : Capacity)
    (state : Listening)
    (isDone : Bool)
    (after : Listening) : Prop where
  yielded : state.yielded <+: after.yielded
  balanced : ∃ isDoneAfter left, after.IsBalanced number tag capacity isDoneAfter left ∧
    (isDone = true → isDoneAfter = true ∧ after.handed = state.handed)

/-- A change of the client alone. -/
theorem IsBalanced.precedes
    (balanced : state.IsBalanced number tag capacity isDone queued)
    {client : Client}
    {isDoneAfter : Bool}
    (sound : client.IsSound)
    (listener : client.IsListener number tag capacity isDoneAfter queued)
    (done : isDone = true → isDoneAfter = true) :
    Precedes number tag capacity state isDone { state with client } where
  yielded := List.prefix_rfl
  balanced :=
    ⟨isDoneAfter, queued,
      { sound := sound
        listener := listener
        inOrder := balanced.inOrder
        discarded := balanced.discarded
        bounded := balanced.bounded },
      fun wasDone => ⟨done wasDone, rfl⟩⟩

/-- Sentences that are taken out of the queue have been read. -/
theorem IsBalanced.taken
    {taken left : List Sentence}
    (balanced : state.IsBalanced number tag capacity isDone (taken ++ left))
    {client : Client}
    (sound : client.IsSound)
    (listener : client.IsListener number tag capacity isDone left) :
    IsBalanced number tag capacity { state with client, yielded := state.yielded ++ taken } isDone
      left where
  sound := sound
  listener := listener
  inOrder := by
    rw [List.append_assoc]
    exact balanced.inOrder
  discarded := balanced.discarded
  bounded := balanced.bounded

/-- A sentence that is handed to the listener while it is collecting. -/
theorem IsBalanced.precedes_handed
    (balanced : state.IsBalanced number tag capacity false queued)
    {given : Handover}
    {client : Client}
    (sound : client.IsSound)
    (listener : client.IsListener number tag capacity false
      (queued ++ if given.isQueued then [given.sentence] else []))
    (discarded : given.isQueued = false → given.foundFull = true ∧ given.foundClosed = true)
    (bounded : given.foundFull = true → ∃ count, capacity = .atMost count) :
    Precedes number tag capacity state false
      { state with client, handed := state.handed ++ [given] } where
  yielded := List.prefix_rfl
  balanced := by
    refine ⟨false, _, ⟨sound, listener, ?_, ?_, ?_⟩, nofun⟩
    · rw [← List.append_assoc, balanced.inOrder, kept, kept, List.filter_append, List.map_append]
      cases isQueued : given.isQueued with
      | true => simp [isQueued]
      | false => simp [isQueued]
    · rw [List.forall_mem_append, List.forall_mem_singleton]
      exact ⟨balanced.discarded, discarded⟩
    · rw [List.forall_mem_append, List.forall_mem_singleton]
      exact ⟨balanced.bounded, bounded⟩

/-! ## One event -/

section Events

variable {sentence : Sentence}

/-- A sentence that is not handed to the listener. -/
theorem IsBalanced.dispatch_of_other
    (balanced : state.IsBalanced number tag capacity isDone queued)
    (tagged : sentence.tag = some tag)
    (other : isDone = true ∨ sentence.control ≠ .data) :
    Precedes number tag capacity state isDone (state.undergo number (.dispatch sentence)) := by
  obtain ⟨proceeds, isDoneAfter, stays, listener⟩ :=
    balanced.listener.dispatch_of_other balanced.sound.distinct Client.readerHost tagged other
  have unhanded : isHanded number sentence state.client = false := by
    rcases other with rfl | notData
    · simp [isHanded, tagged, balanced.listener.lookup?_eq_none]
    · simp [isHanded, notData]
  have sound := Client.steady_isSound.stableUnder.upholds.dispatch sentence balanced.sound
  cases result : state.client.dispatch Client.readerHost sentence with
  | mk outcome after =>
      rw [result] at proceeds listener sound
      cases outcome with
      | stalled held => exact absurd rfl (proceeds held)
      | handled | raised =>
          simp only [undergo, result, unhanded, Bool.false_eq_true, if_false, List.append_nil]
          exact balanced.precedes sound listener stays

/-- A sentence that is handed to the listener while it is collecting. -/
theorem IsBalanced.dispatch_of_handed
    (balanced : state.IsBalanced number tag capacity false queued)
    (usable : capacity ≠ .unusable)
    (tagged : sentence.tag = some tag)
    (data : sentence.control = .data) :
    Precedes number tag capacity state false (state.undergo number (.dispatch sentence)) := by
  have accepts := balanced.listener.accepts_dispatch usable Client.readerHost tagged data
  have sound := Client.steady_isSound.stableUnder.upholds.dispatch sentence balanced.sound
  have handed : isHanded number sentence state.client = true := by
    simp [isHanded, tagged, data, balanced.listener.lookup?_eq]
  have before := balanced.listener.queue?_of_collecting
  have bounded {after : Client} (full : (handover number sentence state.client after).foundFull) :
      ∃ count, capacity = .atMost count := by
    simp only [handover, before, Option.any_some, decide_eq_true_eq] at full
    exact Queue.exists_atMost_of_offer_eq_full full
  generalize result_eq : state.client.dispatch Client.readerHost sentence = result
    at accepts sound
  cases accepts with
  | queued listener =>
      simp only [undergo, result_eq, handed, if_true]
      apply balanced.precedes_handed sound
      · simpa [handover, before, listener.queue?_of_collecting] using listener
      · simp [handover, before, listener.queue?_of_collecting]
      · exact bounded
  | waiting =>
      simp only [undergo, result_eq]
      exact balanced.precedes balanced.sound balanced.listener id
  | discarded full givenUp listener =>
      simp only [undergo, result_eq, handed, if_true]
      apply balanced.precedes_handed sound
      · simpa [handover, before, listener.queue?_of_collecting] using listener
      · intro _
        have isClosed : state.client.link.isClosed = true := by
          simp only [Client.readerHost] at givenUp
          split at givenUp
          · assumption
          · contradiction
        simp [handover, before, full, isClosed]
      · exact bounded

/-- Reading the next sentence. -/
theorem IsBalanced.next
    (balanced : state.IsBalanced number tag capacity isDone queued) :
    Precedes number tag capacity state isDone (state.undergo number .next) := by
  cases queued with
  | cons sentence left =>
      obtain ⟨items, rest, taken, listener⟩ := balanced.listener.takeNext?_cons
      have sound : (state.client.setItems number { capacity, items } rest).IsSound :=
        balanced.sound.modify number fun _ => rfl
      have first : state.IsBalanced number tag capacity isDone ([sentence] ++ left) := balanced
      have balancedAfter := first.taken sound listener
      simp only [undergo, taken]
      exact ⟨List.prefix_append _ _, isDone, left, balancedAfter, fun done => ⟨done, rfl⟩⟩
  | nil =>
      cases isDone with
      | false =>
          simp only [undergo, balanced.listener.takeNext?_of_collecting]
          exact balanced.precedes balanced.sound balanced.listener id
      | true =>
          have sound : (state.client.setItems number { capacity } []).IsSound :=
            balanced.sound.modify number fun _ => rfl
          simp only [undergo, balanced.listener.takeNext?_of_complete]
          exact balanced.precedes sound balanced.listener.emptied id

/-- Reading all sentences of a complete listener. -/
theorem IsBalanced.undergo_iterate
    (balanced : state.IsBalanced number tag capacity true queued) :
    (state.undergo number .iterate).yielded = state.yielded ++ queued ∧
      (state.undergo number .iterate).handed = state.handed ∧
      (state.undergo number .iterate).IsBalanced number tag capacity true [] := by
  have sound : (state.client.setItems number { capacity } []).IsSound :=
    balanced.sound.modify number fun _ => rfl
  have all : state.IsBalanced number tag capacity true (queued ++ []) := by
    rwa [List.append_nil]
  have undergone : state.undergo number .iterate =
      { state with
        client := state.client.setItems number { capacity } []
        yielded := state.yielded ++ queued } := by
    simp only [undergo, balanced.listener.takeAll?_of_complete]
  rw [undergone]
  exact ⟨rfl, rfl, all.taken sound balanced.listener.emptied⟩

theorem IsBalanced.iterate
    (balanced : state.IsBalanced number tag capacity isDone queued) :
    Precedes number tag capacity state isDone (state.undergo number .iterate) := by
  cases isDone with
  | false =>
      simp only [undergo, balanced.listener.takeAll?_of_collecting]
      exact balanced.precedes balanced.sound balanced.listener id
  | true =>
      obtain ⟨yielded_eq, handed_eq, balancedAfter⟩ := balanced.undergo_iterate
      exact ⟨⟨queued, yielded_eq.symm⟩, true, [], balancedAfter, fun _ => ⟨rfl, handed_eq⟩⟩

/-- Completing all outstanding requests. -/
theorem IsBalanced.failAll
    (balanced : state.IsBalanced number tag capacity isDone queued)
    {close : Client → Client}
    (idle : Session.IsIdle close)
    (keeps : ∀ {client}, Session.IsSound client → (close client).IsSound)
    (error : Error) :
    Precedes number tag capacity state isDone
      { state with client := Session.failAll close error state.client } :=
  balanced.precedes
    (Client.steady_isSound.failAll keeps error balanced.sound)
    (balanced.listener.failAll idle error)
    fun _ => rfl

/-- A balanced account stays balanced. -/
theorem IsBalanced.undergo
    (balanced : state.IsBalanced number tag capacity isDone queued)
    (usable : capacity ≠ .unusable)
    {event : Event}
    (about : event.IsAbout tag) :
    Precedes number tag capacity state isDone (state.undergo number event) := by
  cases event with
  | dispatch sentence =>
      have tagged : sentence.tag = some tag := about sentence rfl
      by_cases other : isDone = true ∨ sentence.control ≠ .data
      · exact balanced.dispatch_of_other tagged other
      · obtain ⟨collecting, data⟩ := not_or.mp other
        cases Bool.eq_false_iff.mpr collecting
        exact balanced.dispatch_of_handed usable tagged (not_not.mp data)
  | next => exact balanced.next
  | iterate => exact balanced.iterate
  | failAll error =>
      exact balanced.failAll Client.isIdle_shutDown Client.steady_isSound.shutDown error
  | beginClose =>
      simp only [Listening.undergo]
      split
      · exact balanced.precedes balanced.sound balanced.listener id
      · rename_i isOpen
        exact balanced.precedes
          (Client.steady_isSound.closing (Bool.eq_false_iff.mpr isOpen) balanced.sound)
          (balanced.listener.congr rfl rfl) id
  | endClose =>
      simp only [Listening.undergo]
      split
      · exact balanced.failAll Session.isIdle_id id (.closed .byCaller)
      · exact balanced.precedes balanced.sound balanced.listener id

end Events

/-! ## All events -/

theorem IsBalanced.undergoAll
    (balanced : state.IsBalanced number tag capacity isDone queued)
    (usable : capacity ≠ .unusable)
    {events : List Event}
    (about : ∀ event ∈ events, event.IsAbout tag) :
    Precedes number tag capacity state isDone (state.undergoAll number events) := by
  induction events generalizing state isDone queued with
  | nil => exact balanced.precedes balanced.sound balanced.listener id
  | cons event later inductionHypothesis =>
      obtain ⟨aboutFirst, aboutLater⟩ := List.forall_mem_cons.mp about
      have first := balanced.undergo usable aboutFirst
      obtain ⟨isDoneAfter, left, balancedAfter, doneAfter⟩ := first.balanced
      have rest := inductionHypothesis balancedAfter aboutLater
      obtain ⟨isDoneLast, leftLast, balancedLast, doneLast⟩ := rest.balanced
      refine ⟨first.yielded.trans rest.yielded, isDoneLast, leftLast, balancedLast, ?_⟩
      intro wasDone
      obtain ⟨stays, handed_eq⟩ := doneAfter wasDone
      obtain ⟨staysOn, handedOn_eq⟩ := doneLast stays
      exact ⟨staysOn, handedOn_eq.trans handed_eq⟩

/-- Nothing comes after the end. -/
theorem IsBalanced.nothing_later
    (balanced : state.IsBalanced number tag capacity true [])
    (usable : capacity ≠ .unusable)
    {events : List Event}
    (about : ∀ event ∈ events, event.IsAbout tag) :
    (state.undergoAll number events).yielded = state.yielded ∧
      (state.undergoAll number events).IsBalanced number tag capacity true [] := by
  obtain ⟨extended, isDoneAfter, left, after, done⟩ := balanced.undergoAll usable about
  obtain ⟨rfl, handed_eq⟩ := done rfl
  obtain ⟨more, yielded_eq⟩ := extended
  have inOrder := after.inOrder
  have nothing : more ++ left = [] := by
    rw [kept, handed_eq, ← kept, ← balanced.inOrder, ← yielded_eq, List.append_assoc] at inOrder
    exact List.append_cancel_left inOrder
  obtain ⟨rfl, rfl⟩ := List.append_eq_nil_iff.mp nothing
  rw [List.append_nil] at yielded_eq
  exact ⟨yielded_eq.symm, after⟩

/-! ## Reading in order -/

/-- What reading from a listener with a queue of a given size comes to. What has been read and what
is queued is what was handed over, in order, except for what was discarded because the queue was
full and the connection closed. Once the listener is complete, taking all sentences, or asking for
one after the other, gives those that are queued and ends; whatever happens then, nothing is read
any more, and both end at once. -/
structure ReadsInOrder
    (number : Nat)
    (tag : Text)
    (size : Int)
    (state : Listening) : Prop where
  inOrder : state.yielded ++ state.client.queued number = state.kept
  discarded : ∀ handover ∈ state.handed, handover.isQueued = false →
    handover.foundFull = true ∧ handover.foundClosed = true
  unbounded : size ≤ 0 → state.kept = state.handed.map Handover.sentence
  rest : state.isDone number = true → ∃ after,
    Session.takeAll? number state.client = some (some (state.client.queued number), after) ∧
    Session.Exhausts number state.client (state.client.queued number) after
  ending : state.isDone number = true → ∀ events : List Event,
    (∀ event ∈ events, event.IsAbout tag) →
      (state.undergoAll number (.iterate :: events)).yielded =
        state.yielded ++ state.client.queued number ∧
      ∃ last,
        Session.takeAll? number (state.undergoAll number (.iterate :: events)).client =
          some (some [], last) ∧
        Session.takeNext? number (state.undergoAll number (.iterate :: events)).client =
          some (.ended, last)

theorem usable_ofValue (size : Int) : Capacity.ofValue (.int size) ≠ .unusable := by
  simp only [Capacity.ofValue, Value.fraction?, Capacity.reaching]
  split
  · exact nofun
  · exact nofun

/-- A size that is not positive is no bound. -/
theorem ofValue_of_nonpositive
    {size : Int}
    (nonpositive : size ≤ 0) :
    Capacity.ofValue (.int size) = .unbounded := by
  simp [Capacity.ofValue, Value.fraction?, Capacity.reaching, nonpositive]

theorem IsBalanced.readsInOrder
    {size : Int}
    (balanced : state.IsBalanced number tag (Capacity.ofValue (.int size)) isDone queued) :
    state.ReadsInOrder number tag size where
  inOrder := by
    rw [balanced.listener.queued_eq]
    exact balanced.inOrder
  discarded := balanced.discarded
  unbounded nonpositive := by
    have allQueued : state.handed.filter Handover.isQueued = state.handed := by
      apply List.filter_eq_self.mpr
      intro handover member
      by_contra notQueued
      obtain ⟨full, -⟩ := balanced.discarded handover member (Bool.eq_false_iff.mpr notQueued)
      obtain ⟨count, bounded⟩ := balanced.bounded handover member full
      rw [ofValue_of_nonpositive nonpositive] at bounded
      contradiction
    rw [kept, allQueued]
  rest done := by
    have isDone_eq : isDone = true := balanced.listener.isDone_eq.symm.trans done
    subst isDone_eq
    rw [balanced.listener.queued_eq]
    exact ⟨_, balanced.listener.takeAll?_of_complete, balanced.listener.exhausts⟩
  ending done events about := by
    have isDone_eq : isDone = true := balanced.listener.isDone_eq.symm.trans done
    subst isDone_eq
    obtain ⟨yielded_eq, -, emptied⟩ := balanced.undergo_iterate
    obtain ⟨nothing, last⟩ := emptied.nothing_later (usable_ofValue size) about
    rw [balanced.listener.queued_eq]
    exact ⟨nothing.trans yielded_eq, _, last.listener.takeAll?_of_complete,
      last.listener.takeNext?_of_complete⟩

/-- Whatever happens to a listener, it reads in order. -/
theorem readsInOrder_undergoAll
    {client : Client}
    {request : Request}
    {size : Int}
    (sound : client.IsSound)
    (registers : client.Registers number request)
    (incomplete : request.isDone = false)
    (handler : request.handler = .listener { capacity := .ofValue (.int size) })
    {events : List Event}
    (about : ∀ event ∈ events, event.IsAbout request.tag) :
    (undergoAll number events { client }).ReadsInOrder number request.tag size := by
  have collecting : client.IsListener number request.tag (.ofValue (.int size)) false [] :=
    .collecting registers.request_eq registers.lookup_eq incomplete handler
  have balanced : IsBalanced number request.tag (.ofValue (.int size)) { client } false [] :=
    { sound := sound
      listener := collecting
      inOrder := rfl
      discarded := List.forall_mem_nil _
      bounded := List.forall_mem_nil _ }
  obtain ⟨-, isDone, queued, balancedAfter, -⟩ :=
    balanced.undergoAll (usable_ofValue size) about
  exact balancedAfter.readsInOrder

/-- An asynchronous client with a listener that holds one sentence. -/
def tapped : Client :=
  { Client.receiving [] with
    dispatcher :=
      { minted := 1
        requests :=
          [{ tag := literal "1"
             words := [.text (literal "/listen")]
             handler := .listener { capacity := .ofValue (.int 1) } }]
        pending := [(literal "1", 0)] } }

/-- The request of `tapped`. -/
def tap : Request where
  tag := literal "1"
  words := [.text (literal "/listen")]
  handler := .listener { capacity := .ofValue (.int 1) }

theorem isSound_tapped : tapped.IsSound where
  distinct := by decide
  owned {tag number} found := by
    cases Assoc.mem_of_get?_eq_some found with
    | head => exact ⟨tap, rfl, rfl⟩
    | tail _ member => contradiction

/-- The data sentence with a content, for the listener of `tapped`. -/
def tappedData (content : Text) : Sentence :=
  .ofTexts [literal "!re", literal ".tag=1", literal "=name=" ++ content]

/-- One sentence is queued, and the next one waits until the connection is being closed, when it is
discarded. There is no room for a mark of the end either. -/
def overflow : List Event :=
  [.dispatch (tappedData (literal "a")), .dispatch (tappedData (literal "b")), .beginClose,
    .dispatch (tappedData (literal "b")), .endClose]

/-- The rest is read once, and nothing after it. -/
theorem readsInOrder_overflow :
    (undergoAll 0 overflow { client := tapped }).ReadsInOrder 0 (literal "1") 1 ∧
      (undergoAll 0 overflow { client := tapped }).isDone 0 = true ∧
      (undergoAll 0 (overflow ++ [.iterate, .iterate]) { client := tapped }).yielded =
        [tappedData (literal "a")] ∧
      (undergoAll 0 overflow { client := tapped }).handed =
        [⟨tappedData (literal "a"), true, false, false⟩,
          ⟨tappedData (literal "b"), false, true, true⟩] := by
  have about : ∀ event ∈ overflow, event.IsAbout tap.tag := by
    intro event member sentence dispatched
    subst dispatched
    simp only [overflow, List.mem_cons, Event.dispatch.injEq, reduceCtorEq, List.not_mem_nil,
      or_false, false_or] at member
    rcases member with rfl | rfl | rfl
    · rfl
    · rfl
    · rfl
  have registers : tapped.Registers 0 tap := ⟨rfl, rfl⟩
  exact ⟨readsInOrder_undergoAll isSound_tapped registers rfl rfl about, by decide +kernel,
    by decide +kernel, by decide +kernel⟩

end Listening
end RouterApi
