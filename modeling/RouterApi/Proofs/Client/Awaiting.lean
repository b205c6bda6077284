import RouterApi.Proofs.Client.Answering
import RouterApi.Proofs.Client.Ending
import RouterApi.Proofs.Client.Incidents
import RouterApi.Proofs.Client.Untouched

/-!
# Commands that are waited for

The request of a command that is only waited for collects the sentences of its tag. The terminal one
completes it with the error of its reply, if it has any. What happens to other requests leaves it
alone, unless the connection is cut off: then it fails with a reply that is incomplete.
-/

namespace RouterApi

/-- A reply is complete once a terminal sentence is among its sentences. -/
theorem Reply.isComplete_process
    (reply : Reply)
    (sentence : Sentence) :
    (reply.process sentence).isComplete = (reply.isComplete || sentence.isTerminal) := by
  unfold process Sentence.isTerminal isComplete
  cases sentence.control with
  | done =>
      cases reply.failure with
      | none => simp
      | some failure => simp
  | data | empty | trap | fatal | unknown | blank => simp [record]

/-- What waiting for a request comes to. -/
def Request.answer (request : Request) : Outcome Reply :=
  match request.outcome with
  | none => .waiting
  | some (some error) => .raised error
  | some none => .returned request.reply

/-- The outcome of a reply that a terminal sentence has completed. -/
theorem Reply.result_process_of_terminal
    {sentence : Sentence}
    (terminal : sentence.isTerminal = true)
    (reply : Reply) :
    (reply.process sentence).result =
      match (reply.process sentence).error? with
      | some error => .error error
      | none => .ok (reply.process sentence) := by
  unfold result
  cases failed : (reply.process sentence).error? with
  | some error => rfl
  | none =>
      have progress_eq : (reply.process sentence).progress = .done := by
        have noFailure : (reply.process sentence).failure = none := Option.map_eq_none_iff.mp failed
        rw [failure_process] at noFailure
        obtain ⟨earlier, now⟩ := Option.or_eq_none_iff.mp noFailure
        unfold process
        unfold Failure.ofSentence? at now
        unfold Sentence.isTerminal at terminal
        cases control : sentence.control with
        | done => simp [earlier]
        | data | empty | trap | blank => simp [control] at terminal
        | fatal | unknown => simp [control] at now
      simp only [progress_eq, if_true]

namespace Client

variable
  {client after : Client}
  {number : Nat}
  {tag : Text}
  {words : List Word}
  {reply : Reply}
  {sentence : Sentence}

/-- The request of a command that is only waited for. -/
def awaited
    (tag : Text)
    (words : List Word)
    (reply : Reply) : Request :=
  { tag, words, handler := .callbacks none none, reply }

/-- The error with which a request that is only waited for completes is that of its reply. -/
theorem finalError_awaited
    (tag : Text)
    (words : List Word)
    (reply : Reply) :
    (awaited tag words reply).finalError = reply.error? := by
  unfold Request.finalError
  cases failed : reply.failure with
  | none => simp [awaited, failed, Reply.error?]
  | some failure => simp [awaited, failed, Reply.error?]

/-- Whoever waits for a request that its terminal sentence has completed gets the result of its
reply. -/
theorem answer_of_terminal
    (terminal : sentence.isTerminal = true)
    (tag : Text)
    (words : List Word)
    (reply : Reply) :
    Request.answer { awaited tag words (reply.process sentence) with
        outcome := some (reply.process sentence).error? } =
      outcomeOf (reply.process sentence).result := by
  rw [Reply.result_process_of_terminal terminal, Request.answer]
  cases (reply.process sentence).error? with
  | none => rfl
  | some error => rfl

theorem await_eq_of_request?
    {request : Request}
    (known : client.request? number = some request) :
    client.await number = request.answer := by
  rw [await, known]
  rfl

/-- A command is awaited if its request is outstanding, and the tag of the request leads to it. -/
structure IsAwaited
    (number : Nat)
    (tag : Text)
    (words : List Word)
    (reply : Reply)
    (client : Client) : Prop where
  sound : client.IsSound
  known : client.request? number = some (awaited tag words reply)
  found : client.lookup? tag = some number

/-- Only its own tag leads to an awaited request. -/
theorem IsAwaited.eq_of_lookup?
    (awaits : client.IsAwaited number tag words reply)
    {other : Text}
    (found : client.lookup? other = some number) :
    other = tag := by
  obtain ⟨request, known, tag_eq⟩ := awaits.sound.owned found
  cases known.symm.trans awaits.known
  exact tag_eq.symm

theorem IsAwaited.eq_of_mem
    (awaits : client.IsAwaited number tag words reply)
    {other : Text}
    (member : (other, number) ∈ client.dispatcher.pending) :
    other = tag :=
  awaits.eq_of_lookup? (Assoc.get?_eq_some_of_mem awaits.sound.distinct member)

/-- The client after a sentence has been folded into the reply of a request. -/
def folded
    (number : Nat)
    (sentence : Sentence)
    (client : Client) : Client :=
  client.modify number fun request => { request with reply := request.reply.process sentence }

theorem IsAwaited.folded
    (awaits : client.IsAwaited number tag words reply)
    (sentence : Sentence) :
    (client.folded number sentence).IsAwaited number tag words (reply.process sentence) where
  sound := awaits.sound.modify number fun _ => rfl
  known := by
    rw [Client.folded, Session.request?_modify, if_pos rfl, awaits.known]
    rfl
  found := awaits.found

/-- The client after an awaited request has been taken out of the table and completed. -/
def retired
    (tag : Text)
    (number : Nat)
    (error : Option Error)
    (client : Client) : Client :=
  (client.remove tag).modify number fun request => { request with outcome := some error }

/-- Completing an awaited request only sets its outcome. -/
theorem IsAwaited.retire_eq (awaits : client.IsAwaited number tag words reply) :
    client.retire readerHost tag number = client.retired tag number reply.error? := by
  have known : (client.remove tag).request? number = some (awaited tag words reply) :=
    awaits.known
  unfold Session.retire
  simp only [known, finalError_awaited]
  simp only [Session.finishLogged, Session.finish, known]
  rfl

/-- A completed request rests. -/
theorem IsAwaited.rests_retired
    (awaits : client.IsAwaited number tag words reply)
    (error : Option Error) :
    (client.retired tag number error).Rests number
      { awaited tag words reply with outcome := some error } where
  known := by
    rw [retired, Session.request?_modify, if_pos rfl, Session.request?_remove, awaits.known]
    rfl
  unlisted other member := by
    have own := awaits.eq_of_mem (Assoc.mem_of_mem_erase member)
    subst own
    have erased : (client.remove other).lookup? other = some number :=
      Assoc.get?_eq_some_of_mem (Assoc.nodup_keys_erase awaits.sound.distinct other) member
    rw [awaits.sound.lookup?_remove_self] at erased
    contradiction

/-- Data sentences of an awaited command are not handed on. -/
theorem deliver_of_awaited
    {request : Request}
    (known : client.request? number = some request)
    (handler_eq : request.handler = .callbacks none none)
    (sentence : Sentence) :
    client.deliver readerHost number sentence = (.accepted, client) := by
  simp only [Session.deliver, known, handler_eq]

/-- A sentence that is not terminal is folded into the reply. -/
theorem IsAwaited.feed_of_nonterminal
    (awaits : client.IsAwaited number tag words reply)
    (goesOn : sentence.isTerminal = false) :
    client.feed readerHost tag number sentence = (.handled, client.folded number sentence) := by
  by_cases data : sentence.control = .data
  · have delivered := deliver_of_awaited (awaits.folded sentence).known rfl sentence
    simp only [Client.folded] at delivered
    rw [Session.feed_of_data readerHost data, delivered]
    rfl
  · exact Session.feed_of_other readerHost data goesOn tag number client

/-- A terminal sentence completes the request with the error of its reply. -/
theorem IsAwaited.feed_of_terminal
    (awaits : client.IsAwaited number tag words reply)
    (terminal : sentence.isTerminal = true) :
    client.feed readerHost tag number sentence =
      (if sentence.control = .fatal then .raised (.reported (.fatal sentence) none) else .handled,
        (client.folded number sentence).retired tag number (reply.process sentence).error?) := by
  rw [← (awaits.folded sentence).retire_eq, Session.feed_of_terminal readerHost terminal]
  rfl

/-! ## Whatever happens to other requests -/

/-- A command is left alone if it is awaited, or has failed with its reply as it was. -/
inductive IsLeftAlone
    (number : Nat)
    (tag : Text)
    (words : List Word)
    (reply : Reply)
    (client : Client) : Prop
  | awaited
      (awaits : client.IsAwaited number tag words reply)
  | cutOff {error : Error}
      (rests :
        client.Rests number { Client.awaited tag words reply with outcome := some (some error) })

/-- An update that does not concern the request, nor its entry in the table. -/
theorem IsLeftAlone.update
    (alone : client.IsLeftAlone number tag words reply)
    (sound : client.IsSound → after.IsSound)
    (request_eq : after.request? number = client.request? number)
    (lookup_eq : client.lookup? tag = some number → after.lookup? tag = some number)
    (listed : (∀ other, (other, number) ∉ client.dispatcher.pending) →
      ∀ other, (other, number) ∉ after.dispatcher.pending) :
    after.IsLeftAlone number tag words reply := by
  cases alone with
  | awaited awaits =>
      exact .awaited ⟨sound awaits.sound, request_eq.trans awaits.known, lookup_eq awaits.found⟩
  | cutOff rests => exact .cutOff ⟨request_eq.trans rests.known, listed rests.unlisted⟩

/-- An update of other parts of the client. -/
theorem IsLeftAlone.of_dispatcher_eq
    (alone : client.IsLeftAlone number tag words reply)
    (requests_eq : after.dispatcher.requests = client.dispatcher.requests)
    (pending_eq : after.dispatcher.pending = client.dispatcher.pending) :
    after.IsLeftAlone number tag words reply := by
  refine alone.update (fun sound => sound.update pending_eq ?_) ?_ ?_ ?_
  · intro other request known
    refine ⟨request, ?_, rfl⟩
    rw [← known, Session.request?, Dispatcher.request?, requests_eq]
    rfl
  · rw [Session.request?, Dispatcher.request?, requests_eq]
    rfl
  · intro found
    rwa [Session.lookup?, pending_eq]
  · rw [pending_eq]
    exact id

theorem IsLeftAlone.modify
    (alone : client.IsLeftAlone number tag words reply)
    {other : Nat}
    (different : other ≠ number)
    (change : Request → Request)
    (same : ∀ request, (change request).tag = request.tag) :
    IsLeftAlone number tag words reply (client.modify other change) :=
  alone.update (fun sound => sound.modify other same)
    (by rw [Session.request?_modify, if_neg different]) id id

theorem IsLeftAlone.remove
    (alone : client.IsLeftAlone number tag words reply)
    {other : Text}
    (different : tag ≠ other) :
    IsLeftAlone number tag words reply (client.remove other) :=
  alone.update (steady_isSound.remove other) rfl
    (Session.lookup?_remove_of_ne client different).trans
    fun unlisted _ member => unlisted _ (Assoc.mem_of_mem_erase member)

/-- Whatever completes all outstanding requests completes an awaited one with its error. -/
theorem IsLeftAlone.swept
    (alone : client.IsLeftAlone number tag words reply)
    {error : Error}
    (empty : after.dispatcher.pending = [])
    (request_eq : after.request? number =
      if number ∈ client.listed then
        (client.request? number).map fun request => (request.completed (some error)).1
      else client.request? number) :
    after.IsLeftAlone number tag words reply := by
  have unlisted (other : Text) : (other, number) ∉ after.dispatcher.pending := by
    rw [empty]
    exact List.not_mem_nil
  cases alone with
  | awaited awaits =>
      have listed : number ∈ client.listed :=
        List.mem_map_of_mem (Assoc.mem_of_get?_eq_some awaits.found)
      rw [if_pos listed, awaits.known] at request_eq
      exact .cutOff ⟨request_eq, unlisted⟩
  | cutOff rests =>
      have notListed : number ∉ client.listed := by
        intro listed
        obtain ⟨⟨other, _⟩, member, rfl⟩ := List.mem_map.mp listed
        exact rests.unlisted other member
      rw [if_neg notListed, rests.known] at request_eq
      exact .cutOff ⟨request_eq, unlisted⟩

theorem IsLeftAlone.shutDown (alone : client.IsLeftAlone number tag words reply) :
    client.shutDown.IsLeftAlone number tag words reply := by
  cases isClosed : client.link.isClosed with
  | true =>
      unfold Client.shutDown
      rw [if_pos isClosed]
      exact alone
  | false =>
      exact alone.swept (isCutOff_shutDown isClosed).empty (request?_shutDown isClosed number)

theorem IsLeftAlone.endReader
    (alone : client.IsLeftAlone number tag words reply)
    (error : Error) :
    (endReader error client).IsLeftAlone number tag words reply :=
  alone.swept (isCutOff_endReader error client).empty (request?_endReader error client number)

theorem completes_isLeftAlone
    (number : Nat)
    (tag : Text)
    (words : List Word)
    (reply : Reply) :
    Session.Completes (· ≠ number) (IsLeftAlone number tag words reply) where
  log _ _ _ alone := alone.of_dispatcher_eq rfl rfl
  receipt _ alone := alone.of_dispatcher_eq rfl rfl
  conclude {client other request} error different _ _ alone := by
    have changed := alone.modify different
      (fun request => { request with outcome := some error }) fun _ => rfl
    refine changed.of_dispatcher_eq ?_ ?_
    · rw [Session.dispatcher_conclude]
    · rw [Session.dispatcher_conclude]
  queue different _ _ _ alone := alone.modify different _ fun _ => rfl

theorem writes_isLeftAlone
    (number : Nat)
    (tag : Text)
    (words : List Word)
    (reply : Reply) :
    Writes (IsLeftAlone number tag words reply) where
  showing _ alone := alone.of_dispatcher_eq rfl rfl
  send _ alone _ := alone.of_dispatcher_eq rfl rfl

/-- A further command leaves it alone, since it has another tag. -/
theorem IsLeftAlone.submit
    (alone : client.IsLeftAlone number tag words reply)
    (others : List Word)
    (handler : Handler) :
    (submit Client.shutDown others handler client).2.IsLeftAlone number tag words reply := by
  cases alone with
  | @cutOff error rests =>
      have steady := steady_rests number
        { Client.awaited tag words reply with outcome := some (some error) }
      exact .cutOff (steady.transmits.submit steady.shutDown others handler rests)
  | awaited awaits =>
      have bound := (List.getElem?_eq_some_iff.mp awaits.known).1
      have different (free : client.lookup? client.nextTag = none) : tag ≠ client.nextTag := by
        rintro rfl
        rw [awaits.found] at free
        contradiction
      refine (writes_isLeftAlone number tag words reply).submit IsLeftAlone.shutDown others handler
        (.awaited ?_) (fun working free => .awaited ?_)
        fun free _ aloneAfter => aloneAfter.remove (different free)
      · exact ⟨steady_isSound.enlist others handler awaits.sound,
          (request?_enlist_of_lt others handler bound).trans awaits.known, awaits.found⟩
      · exact ⟨steady_isSound.enroll others handler working free awaits.sound,
          (request?_enlist_of_lt others handler bound).trans awaits.known,
          (Assoc.get?_set_of_ne (different free) ..).trans awaits.found⟩

/-- What the reader does with other requests leaves a command alone. -/
theorem withstands_isLeftAlone
    (number : Nat)
    (tag : Text)
    (words : List Word)
    (reply : Reply) :
    Session.Withstands readerHost (fun other owner => tag ≠ other ∧ owner ≠ number)
      (IsLeftAlone number tag words reply) where
  log _ _ _ alone := alone.of_dispatcher_eq rfl rfl
  receipt _ alone := alone.of_dispatcher_eq rfl rfl
  queue different _ _ _ alone := alone.modify different.2 _ fun _ => rfl
  fold _ different alone := alone.modify different.2 _ fun _ => rfl
  call _ _ _ _ alone := alone.of_dispatcher_eq rfl rfl
  mark different _ _ alone := alone.modify different.2 _ fun _ => rfl
  unmatched _ _ alone := alone.of_dispatcher_eq rfl rfl
  release error different alone :=
    (completes_isLeftAlone number tag words reply).finishLogged IsLeftAlone.shutDown _ error
      different.2 (alone.remove different.1)
  cancel _ alone := by
    rw [cancel_snd]
    exact alone.submit _ _
  close := IsLeftAlone.shutDown
  giveUp givenUp alone := by
    rwa [eq_of_giveUp givenUp]

/-! ## How a command fares -/

/-- How a command fares that is waited for: it has not been answered in full, and is left alone; or
its reply is complete, and its outcome is the error of its reply. -/
inductive Fares
    (number : Nat)
    (tag : Text)
    (words : List Word)
    (client : Client) : Prop
  | unanswered {reply : Reply}
      (incomplete : reply.isComplete = false)
      (alone : client.IsLeftAlone number tag words reply)
  | answered {reply : Reply} {sentence : Sentence}
      (terminal : sentence.isTerminal = true)
      (rests :
        client.Rests number
          { awaited tag words (reply.process sentence) with
            outcome := some (reply.process sentence).error? })

theorem Fares.of_dispatcher_eq
    (fares : client.Fares number tag words)
    (requests_eq : after.dispatcher.requests = client.dispatcher.requests)
    (pending_eq : after.dispatcher.pending = client.dispatcher.pending) :
    after.Fares number tag words := by
  cases fares with
  | unanswered incomplete alone =>
      exact .unanswered incomplete (alone.of_dispatcher_eq requests_eq pending_eq)
  | answered terminal rests =>
      refine .answered terminal (rests.update (congrArg (·[number]?) requests_eq) ?_)
      rw [pending_eq]
      exact fun _ member => member

theorem IsLeftAlone.deliver
    (alone : client.IsLeftAlone number tag words reply)
    (other : Nat)
    (sentence : Sentence) :
    IsLeftAlone number tag words reply (client.deliver readerHost other sentence).2 := by
  by_cases own : other = number
  · subst own
    have unchanged : client.deliver readerHost other sentence = (.accepted, client) := by
      cases alone with
      | awaited awaits => exact deliver_of_awaited awaits.known rfl sentence
      | cutOff rests => exact deliver_of_awaited rests.known rfl sentence
    rw [unchanged]
    exact alone
  · exact (withstands_isLeftAlone number tag words reply).deliver (0 :: tag) sentence
      ⟨(List.cons_ne_self 0 tag).symm, own⟩ alone

theorem Rests.deliver
    {request : Request}
    (rests : client.Rests number request)
    (handler_eq : request.handler = .callbacks none none)
    (other : Nat)
    (sentence : Sentence) :
    Rests number request (client.deliver readerHost other sentence).2 := by
  by_cases own : other = number
  · subst own
    rw [deliver_of_awaited rests.known handler_eq sentence]
    exact rests
  · exact (steady_rests number request).stableUnder.upholds.deliver [] sentence own rests

/-- A sentence is folded into the reply of an awaited command, and may complete it; or it is none of
its sentences, and leaves it alone. -/
theorem IsAwaited.fares_dispatch
    (awaits : client.IsAwaited number tag words reply)
    (incomplete : reply.isComplete = false)
    (sentence : Sentence) :
    Fares number tag words (client.dispatch readerHost sentence).2 := by
  have withstands := withstands_isLeftAlone number tag words reply
  have dispatches := Session.dispatches_dispatch readerHost sentence client
  generalize (client.dispatch readerHost sentence).2 = after at dispatches ⊢
  cases dispatches with
  | skipped => exact .unanswered incomplete (.awaited awaits)
  | unmatched error =>
      exact .unanswered incomplete (withstands.unmatched error sentence (.awaited awaits))
  | @fed other owner found =>
      by_cases own : owner = number
      · subst own
        cases awaits.eq_of_lookup? found
        have complete := reply.isComplete_process sentence
        rw [incomplete, Bool.false_or] at complete
        have folded := awaits.folded sentence
        cases terminal : sentence.isTerminal with
        | false =>
            rw [awaits.feed_of_nonterminal terminal]
            exact .unanswered (complete.trans terminal) (.awaited folded)
        | true =>
            rw [awaits.feed_of_terminal terminal]
            exact .answered terminal (folded.rests_retired _)
      · have different : tag ≠ other := by
          rintro rfl
          exact own (Option.some.inj (found.symm.trans awaits.found))
        exact .unanswered incomplete
          (withstands.feed sentence ⟨different, own⟩ (.awaited awaits))

/-- How a command fares goes on like this, whatever the reader does. -/
theorem survives_fares
    (number : Nat)
    (tag : Text)
    (words : List Word) :
    Survives (fun _ => True) (Fares number tag words) where
  fits _ := trivial
  fitting _ _ _ _ := trivial
  note _ fares := fares.of_dispatcher_eq rfl rfl
  dispatch sentence fares := by
    cases fares with
    | answered terminal rests =>
        exact .answered terminal ((steady_rests _ _).stableUnder.upholds.dispatch sentence rests)
    | unanswered incomplete alone =>
        cases alone with
        | awaited awaits => exact awaits.fares_dispatch incomplete sentence
        | cutOff rests =>
            exact .unanswered incomplete
              (.cutOff ((steady_rests _ _).stableUnder.upholds.dispatch sentence rests))
  deliver fares _ := by
    cases fares with
    | unanswered incomplete alone => exact .unanswered incomplete (alone.deliver _ _)
    | answered terminal rests => exact .answered terminal (rests.deliver rfl _ _)
  take _ fares := fares.of_dispatcher_eq rfl rfl
  idle _ fares := fares.of_dispatcher_eq rfl rfl
  hold _ _ _ _ fares := fares.of_dispatcher_eq rfl rfl
  endReader error fares := by
    cases fares with
    | unanswered incomplete alone => exact .unanswered incomplete (alone.endReader error)
    | answered terminal rests =>
        exact .answered terminal ((steady_rests _ _).shuts.endReader
          (fun _ rests => rests.update rfl fun _ member => member) error rests)

/-- Once it has been issued, a command fares like this. -/
theorem fares_of_runAsync
    (sound : client.IsSound)
    (asynchronous : client.link.isAsynchronous = true)
    (issued : client.runAsync words none none = (.ok number, after)) :
    after.Fares number client.nextTag words := by
  rw [runAsync, start_of_isAsynchronous words _ asynchronous] at issued
  obtain ⟨submitted, rfl⟩ := Prod.mk.inj issued
  refine (survives_fares number client.nextTag words).settle ?_
  by_cases refused : client.dispatcher.failure ≠ none ∨ client.lookup? client.nextTag ≠ none
  · obtain ⟨error, -, turnedAway⟩ :=
      submit_of_refused close words (.callbacks none none) refused
    rw [turnedAway] at submitted
    cases submitted
  · obtain ⟨working, free⟩ := free_of_not_refused refused
    have enrolled : (client.enroll words (.callbacks none none)).IsAwaited
        client.dispatcher.requests.length client.nextTag words {} :=
      ⟨steady_isSound.enroll words _ working free sound, request?_enlist_self words _ client,
        Assoc.get?_set_self ..⟩
    rw [submit_of_free close words _ working free] at submitted ⊢
    have written := written_write close (client.tagged words)
      (client.enroll words (.callbacks none none))
    generalize Client.write close (client.tagged words)
      (client.enroll words (.callbacks none none)) = result at written submitted ⊢
    cases written with
    | unencoded | refused | unshown | failed => cases submitted
    | sent =>
        cases submitted
        have alone := IsLeftAlone.awaited enrolled
        exact .unanswered rfl (alone.of_dispatcher_eq rfl rfl)

end Client
end RouterApi
