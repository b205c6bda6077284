import RouterApi.Proofs.Client.TakingCommands
import RouterApi.Proofs.Client.Traffic
import RouterApi.Proofs.Isolation.Cancellation
import RouterApi.Proofs.ModesAgree

/-!
# Correlation of sentences with commands

A request is registered before its command is written, tags are never reused, and an entry stays in
the table until the terminal sentence of its tag. So every sentence that the device sends for a
command reaches the request of that command, in whatever order the caller, the device and the reader
take their steps.
-/

namespace RouterApi

namespace Traffic

variable {state : Traffic}

/-- The caller and the device keep to the rules. A command is only written by the caller once, and
the device answers each command under its tag, until a terminal sentence. -/
structure IsFair (state : Traffic) : Prop where
  made : ∀ number ∈ state.written, number < state.client.dispatcher.requests.length
  preparing : ∀ {number}, state.caller = .minted number ∨ state.caller = .registered number →
    number < state.client.dispatcher.requests.length ∧ number ∉ state.written
  answering : ∀ response ∈ state.sent, response.command ∈ state.written ∧
    response.sentence.tag = some (Client.tagOf response.command) ∧
    response.sentence.control ≠ .fatal
  ordered : state.sent.Pairwise fun earlier later =>
    earlier.sentence.tag = later.sentence.tag → earlier.sentence.isTerminal = false
  inFlight : state.landed.map Landing.response ++ state.inFlight = state.sent

/-- Every sentence that has been dispatched has reached the request of its command, and the requests
and the table are as these sentences make them. -/
structure IsMatched (state : Traffic) : Prop where
  unmatched_eq : state.client.dispatcher.unmatched = 0
  registered : ∀ {number}, state.caller = .registered number →
    state.client.lookup? (Client.tagOf number) = some number
  destined : ∀ landing ∈ state.landed, landing.destination = some landing.response.command
  reply_eq : ∀ {number request}, state.client.request? number = some request →
    request.reply = (state.received number).foldl Reply.process {}
  isDone_eq : ∀ {number request}, state.client.request? number = some request →
    request.isDone = (state.received number).any Sentence.isTerminal
  entry : ∀ number ∈ state.written, state.client.lookup? (Client.tagOf number) =
    if (state.received number).any Sentence.isTerminal then none else some number

/-- What holds at every time. -/
structure IsOnCourse (state : Traffic) : Prop where
  client : state.client.TakesCommands
  fair : state.IsFair
  matched : state.IsMatched

/-- Everything that has been dispatched was sent. -/
theorem IsOnCourse.mem_sent
    (course : state.IsOnCourse)
    {landing : Landing}
    (landed : landing ∈ state.landed) :
    landing.response ∈ state.sent := by
  rw [← course.fair.inFlight]
  exact List.mem_append_left _ (List.mem_map_of_mem landed)

/-- So was everything that is in flight. -/
theorem IsOnCourse.mem_sent_of_inFlight
    (course : state.IsOnCourse)
    {response : Response}
    (flying : response ∈ state.inFlight) :
    response ∈ state.sent := by
  rw [← course.fair.inFlight]
  exact List.mem_append_right _ flying

/-- A request whose command has not been written has received nothing. -/
theorem IsOnCourse.received_eq_nil
    (course : state.IsOnCourse)
    {number : Nat}
    (unwritten : number ∉ state.written) :
    state.received number = [] := by
  have absent : state.landed.filter (·.destination = some number) = [] := by
    apply List.filter_eq_nil_iff.mpr
    intro landing member reached
    have sent := course.mem_sent member
    have destined := course.matched.destined landing member
    rw [of_decide_eq_true reached] at destined
    cases destined
    exact unwritten (course.fair.answering _ sent).1
  rw [received, absent, List.map_nil]

/-- Neither has the next request that is made. -/
theorem IsOnCourse.not_written_next (course : state.IsOnCourse) :
    state.client.dispatcher.requests.length ∉ state.written :=
  fun member => Nat.lt_irrefl _ (course.fair.made _ member)

theorem IsOnCourse.received_next (course : state.IsOnCourse) :
    state.received state.client.dispatcher.requests.length = [] :=
  course.received_eq_nil course.not_written_next

/-! ## The caller -/

section Caller

variable {words : List Word} {handler : Handler}

/-- A change of the client and the caller that leaves the requests alone. -/
theorem IsOnCourse.update
    (course : state.IsOnCourse)
    {client : Client}
    {caller : Caller}
    (takes : client.TakesCommands)
    (requests_eq : client.dispatcher.requests = state.client.dispatcher.requests)
    (unmatched_eq : client.dispatcher.unmatched = state.client.dispatcher.unmatched)
    (preparing : ∀ {number}, caller = .minted number ∨ caller = .registered number →
      number < state.client.dispatcher.requests.length ∧ number ∉ state.written)
    (registered : ∀ {number}, caller = .registered number →
      client.lookup? (Client.tagOf number) = some number)
    (entry : ∀ number ∈ state.written,
      client.lookup? (Client.tagOf number) = state.client.lookup? (Client.tagOf number)) :
    IsOnCourse { state with client, caller } where
  client := takes
  fair :=
    { made := by
        rw [requests_eq]
        exact course.fair.made
      preparing := by
        rw [requests_eq]
        exact preparing
      answering := course.fair.answering
      ordered := course.fair.ordered
      inFlight := course.fair.inFlight }
  matched :=
    { unmatched_eq := unmatched_eq.trans course.matched.unmatched_eq
      registered := registered
      destined := course.matched.destined
      reply_eq := fun known =>
        course.matched.reply_eq ((congrArg (·[_]?) requests_eq).symm.trans known)
      isDone_eq := fun known =>
        course.matched.isDone_eq ((congrArg (·[_]?) requests_eq).symm.trans known)
      entry := fun number member =>
        (entry number member).trans (course.matched.entry number member) }

/-- The caller makes a request. -/
theorem IsOnCourse.mint
    (course : state.IsOnCourse)
    (observing : handler.isObserving = true) :
    IsOnCourse
      { state with
        client := state.client.enlist words handler
        caller := .minted state.client.dispatcher.requests.length } where
  client := course.client.enlist observing
  fair :=
    { made := by
        intro number member
        rw [Client.length_enlist]
        exact Nat.lt_succ_of_lt (course.fair.made number member)
      preparing := by
        intro number about
        rw [Client.length_enlist]
        rcases about with minted | registered
        · cases minted
          exact ⟨Nat.lt_succ_self _, course.not_written_next⟩
        · contradiction
      answering := course.fair.answering
      ordered := course.fair.ordered
      inFlight := course.fair.inFlight }
  matched :=
    { unmatched_eq := course.matched.unmatched_eq
      registered := nofun
      destined := course.matched.destined
      reply_eq := by
        intro number request known
        rcases Client.request?_enlist_eq_some known with earlier | ⟨rfl, rfl⟩
        · exact course.matched.reply_eq earlier
        · exact (congrArg (List.foldl Reply.process {}) course.received_next).symm
      isDone_eq := by
        intro number request known
        rcases Client.request?_enlist_eq_some known with earlier | ⟨rfl, rfl⟩
        · exact course.matched.isDone_eq earlier
        · exact (congrArg (List.any · Sentence.isTerminal) course.received_next).symm
      entry := course.matched.entry }

/-- The caller registers the request. -/
theorem IsOnCourse.register
    (course : state.IsOnCourse)
    {number : Nat}
    (minted : state.caller = .minted number)
    {dispatcher : Dispatcher}
    (registered : state.client.dispatcher.register number = .ok dispatcher) :
    IsOnCourse
      { state with client := { state.client with dispatcher }, caller := .registered number } := by
  obtain ⟨made, unwritten⟩ := course.fair.preparing (.inl minted)
  obtain ⟨request, known, tag_eq⟩ := course.client.exists_request made
  obtain ⟨-, -, rfl⟩ := (Dispatcher.register_eq_ok_iff known).mp registered
  apply course.update
  · exact course.client.update rfl course.client.sending rfl rfl rfl
      (Assoc.nodup_keys_set course.client.distinct _ _)
  · rfl
  · rfl
  · intro other about
    rcases about with absurd | same
    · contradiction
    · cases same
      exact ⟨made, unwritten⟩
  · intro other same
    cases same
    rw [← tag_eq]
    exact Assoc.get?_set_self ..
  · intro other member
    have different : Client.tagOf other ≠ request.tag := by
      rw [tag_eq]
      apply Client.tagOf_ne
      rintro rfl
      exact unwritten member
    exact Assoc.get?_set_of_ne different ..

/-- A caller that is done with a command, or gives up. -/
theorem IsOnCourse.finish
    (course : state.IsOnCourse)
    {client : Client}
    (takes : client.TakesCommands)
    (requests_eq : client.dispatcher.requests = state.client.dispatcher.requests)
    (unmatched_eq : client.dispatcher.unmatched = state.client.dispatcher.unmatched)
    (entry : ∀ number ∈ state.written,
      client.lookup? (Client.tagOf number) = state.client.lookup? (Client.tagOf number)) :
    IsOnCourse { state with client, caller := .idle } := by
  apply course.update takes requests_eq unmatched_eq ?_ ?_ entry
  · rintro number (absurd | absurd)
    · contradiction
    · contradiction
  · intro number absurd
    contradiction

theorem IsOnCourse.giveUp (course : state.IsOnCourse) :
    IsOnCourse { state with caller := .idle } :=
  course.finish course.client rfl rfl fun _ _ => rfl

/-- A caller that takes its request out of the table again. -/
theorem IsOnCourse.withdraw
    (course : state.IsOnCourse)
    {number : Nat}
    (registered : state.caller = .registered number)
    {tag : Text}
    (tag_eq : tag = Client.tagOf number) :
    IsOnCourse { state with client := state.client.remove tag, caller := .idle } := by
  obtain ⟨made, unwritten⟩ := course.fair.preparing (.inr registered)
  have takes : Client.TakesCommands (state.client.remove tag) :=
    course.client.update rfl course.client.sending rfl rfl rfl
      (Assoc.nodup_keys_erase course.client.distinct tag)
  apply course.finish takes rfl rfl
  intro other member
  apply Session.lookup?_remove_of_ne
  rw [tag_eq]
  apply Client.tagOf_ne
  rintro rfl
  exact unwritten member

/-- From now on the device may answer the command of a request that is registered. -/
theorem IsOnCourse.withWritten
    (course : state.IsOnCourse)
    (idle : state.caller = .idle)
    {number : Nat}
    (made : number < state.client.dispatcher.requests.length)
    (unwritten : number ∉ state.written)
    (registered : state.client.lookup? (Client.tagOf number) = some number) :
    IsOnCourse { state with written := state.written ++ [number] } where
  client := course.client
  fair :=
    { made := by
        rw [List.forall_mem_append, List.forall_mem_singleton]
        exact ⟨course.fair.made, made⟩
      preparing := by
        rw [idle]
        rintro other (absurd | absurd)
        · contradiction
        · contradiction
      answering := by
        intro response sent
        obtain ⟨member, tagged, notFatal⟩ := course.fair.answering response sent
        exact ⟨List.mem_append_left _ member, tagged, notFatal⟩
      ordered := course.fair.ordered
      inFlight := course.fair.inFlight }
  matched :=
    { unmatched_eq := course.matched.unmatched_eq
      registered := course.matched.registered
      destined := course.matched.destined
      reply_eq := course.matched.reply_eq
      isDone_eq := course.matched.isDone_eq
      entry := by
        rw [List.forall_mem_append, List.forall_mem_singleton]
        refine ⟨course.matched.entry, ?_⟩
        have nothing : ({ state with written := state.written ++ [number] } : Traffic).received
            number = [] := course.received_eq_nil unwritten
        rw [nothing]
        exact registered }

/-- The caller writes the command of its request, or fails to. -/
theorem IsOnCourse.transmit
    (course : state.IsOnCourse)
    {number : Nat}
    (registered : state.caller = .registered number) :
    IsOnCourse (state.transmit number) := by
  obtain ⟨made, unwritten⟩ := course.fair.preparing (.inr registered)
  obtain ⟨request, known, tag_eq⟩ := course.client.exists_request made
  have written := Client.written_write Client.close
    (request.words ++ [.text (Word.ofTag (.text request.tag))]) state.client
  simp only [Traffic.transmit, known]
  generalize Client.write Client.close _ state.client = result at written ⊢
  cases written with
  | refused encoded isClosed =>
      rw [course.client.isOpen] at isClosed
      contradiction
  | @failed data shown reason stream encoded isOpen masked failed =>
      obtain ⟨after, sent, -⟩ := Stream.send_of_no_failure course.client.sending data
      rw [sent] at failed
      cases failed
  | unencoded =>
      simp only
      split
      · exact course.withdraw registered tag_eq
      · exact course.giveUp
  | unshown =>
      simp only
      split
      · exact course.withdraw registered tag_eq
      · exact course.giveUp
  | @sent data shown stream encoded isOpen masked sent =>
      obtain ⟨after, sentAgain, sending⟩ :=
        Stream.send_of_no_failure course.client.sending data
      cases sent.symm.trans sentAgain
      have entry := course.matched.registered registered
      have wrote : IsOnCourse
          { state with
            client := (state.client.showing shown).modifyLink ({ · with stream })
            caller := .idle } :=
        course.finish (course.client.update rfl sending rfl rfl rfl course.client.distinct) rfl rfl
          fun _ _ => rfl
      exact wrote.withWritten rfl made unwritten entry

end Caller

/-! ## The device -/

theorem permits_iff (response : Response) :
    state.permits response = true ↔
      response.command ∈ state.written ∧
        response.sentence.tag = (state.client.request? response.command).map Request.tag ∧
        response.sentence.control ≠ .fatal ∧
        ∀ earlier ∈ state.sent, earlier.sentence.tag = response.sentence.tag →
          earlier.sentence.isTerminal = false := by
  simp [permits, and_assoc, imp_iff_not_or]

/-- The device sends a sentence. -/
theorem IsOnCourse.answer
    (course : state.IsOnCourse)
    {response : Response}
    (permitted : state.permits response = true) :
    IsOnCourse
      { state with
        sent := state.sent ++ [response]
        inFlight := state.inFlight ++ [response] } where
  client := course.client
  fair := by
    obtain ⟨written, tagged, notFatal, unfinished⟩ := (permits_iff response).mp permitted
    obtain ⟨request, known, tag_eq⟩ :=
      course.client.exists_request (course.fair.made _ written)
    rw [known, Option.map_some, tag_eq] at tagged
    exact
      { made := course.fair.made
        preparing := course.fair.preparing
        answering := by
          rw [List.forall_mem_append, List.forall_mem_singleton]
          exact ⟨course.fair.answering, written, tagged, notFatal⟩
        ordered := by
          apply List.pairwise_append.mpr
          refine ⟨course.fair.ordered, List.pairwise_singleton _ _, ?_⟩
          intro earlier member later last
          cases List.mem_singleton.mp last
          exact unfinished earlier member
        inFlight := by rw [← List.append_assoc, course.fair.inFlight] }
  matched :=
    { unmatched_eq := course.matched.unmatched_eq
      registered := course.matched.registered
      destined := course.matched.destined
      reply_eq := course.matched.reply_eq
      isDone_eq := course.matched.isDone_eq
      entry := course.matched.entry }

/-! ## The reader -/

theorem received_of_landed_eq
    {after : Traffic}
    {landing : Landing}
    (landed_eq : after.landed = state.landed ++ [landing])
    (number : Nat) :
    after.received number = state.received number ++
      if landing.destination = some number then [landing.response.sentence] else [] := by
  rw [received, received, landed_eq, List.filter_append, List.map_append]
  by_cases reached : landing.destination = some number
  · simp [reached]
  · simp [reached]

/-- No terminal sentence has been dispatched for the command of a sentence that is in flight. -/
theorem IsOnCourse.unfinished
    (course : state.IsOnCourse)
    {response : Response}
    (flying : response ∈ state.inFlight) :
    (state.received response.command).any Sentence.isTerminal = false := by
  apply List.any_eq_false.mpr
  intro sentence member terminal
  obtain ⟨landing, landed, rfl⟩ := List.mem_map.mp member
  obtain ⟨landed, reached⟩ := List.mem_filter.mp landed
  have destined := course.matched.destined landing landed
  rw [of_decide_eq_true reached] at destined
  have ordered := course.fair.ordered
  rw [← course.fair.inFlight] at ordered
  obtain ⟨-, -, before⟩ := List.pairwise_append.mp ordered
  have sent := course.mem_sent_of_inFlight flying
  have tag_eq : landing.response.sentence.tag = response.sentence.tag := by
    rw [(course.fair.answering _ (course.mem_sent landed)).2.1,
      (course.fair.answering _ sent).2.1, Option.some.inj destined]
  have goesOn := before _ (List.mem_map_of_mem landed) response flying tag_eq
  rw [goesOn] at terminal
  contradiction

section Reader

variable
  {response : Response}
  {later : List Response}
  {client : Client}
  {error : Option Error}

/-- The state after a sentence has reached the request of its command. -/
def land
    (client : Client)
    (response : Response)
    (later : List Response)
    (state : Traffic) : Traffic :=
  { state with
    client
    inFlight := later
    landed := state.landed ++ [{ response, destination := some response.command }] }

theorem received_land (number : Nat) :
    (state.land client response later).received number =
      state.received number ++
        if response.command = number then [response.sentence] else [] := by
  rw [received_of_landed_eq rfl]
  simp

/-- The other entries stay in the table. -/
theorem IsOnCourse.lookup?_land
    (course : state.IsOnCourse)
    (dispatcher_eq : client.dispatcher = state.client.dispatcher.absorb
      (Client.tagOf response.command) response.command response.sentence error)
    (number : Nat) :
    client.lookup? (Client.tagOf number) =
      if number = response.command ∧ response.sentence.isTerminal = true then none
      else state.client.lookup? (Client.tagOf number) := by
  rw [Session.lookup?, dispatcher_eq, Dispatcher.get?_absorb course.client.distinct]
  simp only [Client.tagOf_inj]
  rfl

theorem IsOnCourse.isFair_land
    (course : state.IsOnCourse)
    (first : state.inFlight = response :: later)
    (dispatcher_eq : client.dispatcher = state.client.dispatcher.absorb
      (Client.tagOf response.command) response.command response.sentence error) :
    (state.land client response later).IsFair := by
  have length_eq : client.dispatcher.requests.length =
      state.client.dispatcher.requests.length := by
    rw [dispatcher_eq, Dispatcher.length_absorb]
  exact
    { made := by
        rw [land, length_eq]
        exact course.fair.made
      preparing := by
        rw [land, length_eq]
        exact course.fair.preparing
      answering := course.fair.answering
      ordered := course.fair.ordered
      inFlight := by
        rw [land, ← course.fair.inFlight, first]
        simp }

theorem IsOnCourse.isMatched_land
    (course : state.IsOnCourse)
    (flying : response ∈ state.inFlight)
    (dispatcher_eq : client.dispatcher = state.client.dispatcher.absorb
      (Client.tagOf response.command) response.command response.sentence error) :
    (state.land client response later).IsMatched where
  unmatched_eq := by
    rw [land, dispatcher_eq]
    exact course.matched.unmatched_eq
  registered := by
    intro number registered
    have written := (course.fair.answering response (course.mem_sent_of_inFlight flying)).1
    have different : number ≠ response.command := by
      rintro rfl
      exact (course.fair.preparing (.inr registered)).2 written
    rw [land, course.lookup?_land dispatcher_eq, if_neg fun same => different same.1]
    exact course.matched.registered registered
  destined := by
    rw [land, List.forall_mem_append, List.forall_mem_singleton]
    exact ⟨course.matched.destined, rfl⟩
  reply_eq := by
    intro number request known
    rw [land, Session.request?, dispatcher_eq] at known
    obtain ⟨earlier, found, -, -, reply_eq, -⟩ := Dispatcher.request?_absorb_eq_some known
    rw [received_land, List.foldl_append, ← course.matched.reply_eq found]
    exact reply_eq
  isDone_eq := by
    intro number request known
    rw [land, Session.request?, dispatcher_eq] at known
    obtain ⟨earlier, found, -, -, -, isDone_eq⟩ := Dispatcher.request?_absorb_eq_some known
    rw [received_land, List.any_append, ← course.matched.isDone_eq found]
    exact isDone_eq
  entry := by
    intro number member
    have entry := course.matched.entry number member
    rw [received_land, List.any_append, land, course.lookup?_land dispatcher_eq, entry]
    by_cases same : response.command = number
    · subst same
      rw [course.unfinished flying]
      simp
    · have different : ¬(number = response.command ∧ response.sentence.isTerminal = true) :=
        fun both => same both.1.symm
      rw [if_neg different, if_neg same, List.any_nil, Bool.or_false]

/-- A sentence that is in flight is for a request in the table, and not complete. -/
theorem IsOnCourse.expected
    (course : state.IsOnCourse)
    (flying : response ∈ state.inFlight) :
    state.client.lookup? (Client.tagOf response.command) = some response.command ∧
      ∃ request, state.client.request? response.command = some request ∧
        request.isDone = false := by
  have written := (course.fair.answering response (course.mem_sent_of_inFlight flying)).1
  have unfinished := course.unfinished flying
  obtain ⟨request, known, -⟩ := course.client.exists_request (course.fair.made _ written)
  refine ⟨?_, request, known, ?_⟩
  · rw [course.matched.entry _ written, unfinished, if_neg Bool.false_ne_true]
  · rw [course.matched.isDone_eq known, unfinished]

/-- The reader dispatches the next sentence. -/
theorem IsOnCourse.dispatch
    (course : state.IsOnCourse)
    (first : state.inFlight = response :: later) :
    IsOnCourse (state.act .dispatch) := by
  have flying : response ∈ state.inFlight := by
    rw [first]
    exact List.mem_cons_self
  obtain ⟨-, tagged, notFatal⟩ :=
    course.fair.answering response (course.mem_sent_of_inFlight flying)
  obtain ⟨found, request, known, incomplete⟩ := course.expected flying
  have foundNoted : (state.client.noting response.sentence).lookup?
      (Client.tagOf response.command) = some response.command := found
  have knownNoted : (state.client.noting response.sentence).request? response.command =
      some request := known
  obtain ⟨error, after, fed, dispatcher_eq, link_eq⟩ :=
    Session.feed_of_isObserving knownNoted (course.client.observing known) incomplete notFatal
      Client.readerHost (Client.tagOf response.command)
  rw [← Session.dispatch_of_lookup?_eq_some Client.readerHost tagged foundNoted] at fed
  have acted : state.act .dispatch = state.land after response later := by
    simp [act, land, first, fed, tagged, found]
  rw [acted]
  exact
    { client := course.client.absorb link_eq dispatcher_eq
      fair := course.isFair_land first dispatcher_eq
      matched := course.isMatched_land flying dispatcher_eq }

end Reader

/-! ## All steps -/

/-- No action leads off course. -/
theorem IsOnCourse.act
    (course : state.IsOnCourse)
    (action : Action) :
    IsOnCourse (state.act action) := by
  cases action with
  | mint words handler =>
      simp only [Traffic.act]
      split
      · rename_i observing
        exact course.mint observing
      · exact course
  | register =>
      simp only [Traffic.act]
      split
      · rename_i number minted
        split
        · rename_i dispatcher registered
          exact course.register minted registered
        · exact course.giveUp
      · exact course
  | write =>
      simp only [Traffic.act]
      split
      · rename_i number registered
        exact course.transmit registered
      · exact course
  | answer response =>
      simp only [Traffic.act]
      split
      · rename_i permitted
        exact course.answer permitted
      · exact course
  | dispatch =>
      cases first : state.inFlight with
      | nil => simpa only [Traffic.act, first] using course
      | cons response later => exact course.dispatch first

theorem IsOnCourse.actAll
    (course : state.IsOnCourse)
    (actions : List Action) :
    IsOnCourse (state.actAll actions) := by
  induction actions generalizing state with
  | nil => exact course
  | cons action later inductionHypothesis => exact inductionHypothesis (course.act action)

/-- A client without requests is on course. -/
theorem isOnCourse_of_fresh
    {client : Client}
    (fresh : client.dispatcher = {})
    (isOpen : client.link.isClosed = false)
    (sending : ∀ reason, Answer.failure reason ∉ client.link.stream.script) :
    IsOnCourse { client } := by
  have unknown {number : Nat} {request : Request} : client.request? number ≠ some request := by
    simp [Session.request?, Dispatcher.request?, fresh]
  refine ⟨Client.takesCommands_of_fresh fresh isOpen sending, ?_, ?_⟩
  · exact
      { made := List.forall_mem_nil _
        preparing := by
          rintro number (absurd | absurd)
          · contradiction
          · contradiction
        answering := List.forall_mem_nil _
        ordered := .nil
        inFlight := rfl }
  · exact
      { unmatched_eq := by rw [fresh]
        registered := by
          intro number absurd
          contradiction
        destined := List.forall_mem_nil _
        reply_eq := fun known => absurd known unknown
        isDone_eq := fun known => absurd known unknown
        entry := List.forall_mem_nil _ }

/-! ## Correlation -/

/-- The sentences that the device has sent are correlated with the commands. None is counted as
unmatched. Those that were dispatched have reached the request of the command that they answer; what
has reached a request is what the device has sent for its command, in order, but for what is still
in flight, and its reply is the fold of that. A request is complete once its terminal sentence has
been dispatched, and until then its tag leads to it. -/
structure IsCorrelated (state : Traffic) : Prop where
  unmatched_eq : state.client.dispatcher.unmatched = 0
  destined : ∀ landing ∈ state.landed, landing.destination = some landing.response.command
  inOrder : ∀ number, state.received number ++ state.awaited number = state.answers number
  reply_eq : ∀ number request, state.client.request? number = some request →
    request.reply = (state.received number).foldl Reply.process {}
  isDone_eq : ∀ number request, state.client.request? number = some request →
    request.isDone = (state.received number).any Sentence.isTerminal
  entry : ∀ number request, state.client.request? number = some request →
    number ∈ state.written →
    state.client.lookup? request.tag = if request.isDone then none else some number

/-- What has reached a request is what was dispatched of the answers to its command. -/
theorem IsOnCourse.received_eq
    (course : state.IsOnCourse)
    (number : Nat) :
    state.received number =
      ((state.landed.map Landing.response).filter (·.command = number)).map Response.sentence := by
  rw [received, List.filter_map, List.map_map]
  congr 1
  apply List.filter_congr
  intro landing member
  rw [course.matched.destined landing member]
  simp

theorem IsOnCourse.isCorrelated (course : state.IsOnCourse) : state.IsCorrelated where
  unmatched_eq := course.matched.unmatched_eq
  destined := course.matched.destined
  inOrder number := by
    rw [course.received_eq, awaited, answers, ← List.map_append, ← List.filter_append,
      course.fair.inFlight]
  reply_eq _ _ := course.matched.reply_eq
  isDone_eq _ _ := course.matched.isDone_eq
  entry number request known member := by
    rw [course.client.tagged known, course.matched.isDone_eq known]
    exact course.matched.entry number member

/-- Whatever steps the caller, the device and the reader take, and in whatever order, no reply is
lost or taken for another. -/
theorem isCorrelated_actAll
    {client : Client}
    (fresh : client.dispatcher = {})
    (isOpen : client.link.isClosed = false)
    (sending : ∀ reason, Answer.failure reason ∉ client.link.stream.script)
    (actions : List Action) :
    (actAll actions { client }).IsCorrelated :=
  ((isOnCourse_of_fresh fresh isOpen sending).actAll actions).isCorrelated

/-- Two commands. The first one is answered while the caller is about to issue the second one, and
each sentence is dispatched between two steps of the caller. -/
def twoCalls : List Action :=
  [.mint [.text (literal "/a")] (.callbacks none none), .register, .write,
    .answer ⟨0, .ofTexts [literal "!re", literal ".tag=1", literal "=x=y"]⟩,
    .mint [.text (literal "/b")] (.callbacks (some .observe) (some .observe)), .dispatch,
    .answer ⟨0, .ofTexts [literal "!done", literal ".tag=1"]⟩, .register, .dispatch, .write,
    .answer ⟨1, .ofTexts [literal "!done", literal ".tag=2"]⟩, .dispatch]

/-- Both replies are complete then. -/
theorem isCorrelated_twoCalls :
    (actAll twoCalls { client := Client.attending [] }).IsCorrelated ∧
      (actAll twoCalls { client := Client.attending [] }).inFlight.length = 0 ∧
      (actAll twoCalls { client := Client.attending [] }).client.dispatcher.requests.map
          Request.reply =
        [{ data := [.ofTexts [literal "!re", literal ".tag=1", literal "=x=y"]]
           done := some (.ofTexts [literal "!done", literal ".tag=1"])
           progress := .done },
          { done := some (.ofTexts [literal "!done", literal ".tag=2"]), progress := .done }] := by
  have sending : ∀ reason,
      Answer.failure reason ∉ (Client.attending []).link.stream.script :=
    fun _ => List.not_mem_nil
  exact ⟨isCorrelated_actAll rfl rfl sending twoCalls, by decide +kernel, by decide +kernel⟩

end Traffic
end RouterApi
