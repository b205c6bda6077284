import RouterApi.Proofs.Session.Stability

/-!
# Requests whose callbacks only observe

A request whose callbacks only record their calls, if it has any, takes each sentence of its tag as
it comes. A sentence is folded into its reply, and a terminal one completes it and takes its entry
out of the table. Nothing else about the requests and the table changes.
-/

namespace RouterApi

/-- Whether there is no callback, or one that only records its calls. -/
def Reaction.isObserving : Option Reaction → Bool
  | none | some .observe => true
  | some _ => false

/-- Whether the callbacks of a handler, if it has any, only record their calls. -/
def Handler.isObserving : Handler → Bool
  | .callbacks onSentence onComplete =>
      Reaction.isObserving onSentence && Reaction.isObserving onComplete
  | .listener _ => false

theorem Reaction.eq_of_isObserving
    {reaction : Option Reaction}
    (observing : Reaction.isObserving reaction = true) :
    reaction = none ∨ reaction = some .observe := by
  unfold isObserving at observing
  split at observing
  · exact .inl rfl
  · exact .inr rfl
  · contradiction

theorem Handler.exists_of_isObserving
    {handler : Handler}
    (observing : handler.isObserving = true) :
    ∃ onSentence onComplete, handler = .callbacks onSentence onComplete ∧
      (onSentence = none ∨ onSentence = some .observe) ∧
      (onComplete = none ∨ onComplete = some .observe) := by
  cases handler with
  | listener queue => contradiction
  | callbacks onSentence onComplete =>
      obtain ⟨first, second⟩ := Bool.and_eq_true_iff.mp observing
      exact ⟨onSentence, onComplete, rfl, Reaction.eq_of_isObserving first,
        Reaction.eq_of_isObserving second⟩

namespace Dispatcher

/-- The requests and the table after a sentence has been taken by a request. -/
def absorb
    (tag : Text)
    (number : Nat)
    (sentence : Sentence)
    (error : Option Error)
    (dispatcher : Dispatcher) : Dispatcher :=
  { dispatcher with
    requests := dispatcher.requests.modify number fun request =>
      { request with
        reply := request.reply.process sentence
        outcome := if sentence.isTerminal then some error else request.outcome }
    pending :=
      if sentence.isTerminal then Assoc.erase tag dispatcher.pending else dispatcher.pending }

variable {dispatcher : Dispatcher}

theorem length_absorb
    (tag : Text)
    (number : Nat)
    (sentence : Sentence)
    (error : Option Error)
    (dispatcher : Dispatcher) :
    (dispatcher.absorb tag number sentence error).requests.length = dispatcher.requests.length :=
  List.length_modify ..

/-- A request is what it was before, but for the sentence if it is the one that took it. -/
theorem request?_absorb_eq_some
    {tag : Text}
    {number other : Nat}
    {sentence : Sentence}
    {error : Option Error}
    {request : Request}
    (known : (dispatcher.absorb tag number sentence error).request? other = some request) :
    ∃ earlier, dispatcher.request? other = some earlier ∧ request.tag = earlier.tag ∧
      request.handler = earlier.handler ∧
      request.reply =
        (if number = other then [sentence] else []).foldl Reply.process earlier.reply ∧
      request.isDone =
        (earlier.isDone ||
          (if number = other then [sentence] else []).any Sentence.isTerminal) := by
  rw [absorb, request?, List.getElem?_modify] at known
  obtain ⟨earlier, found, rfl⟩ := Option.map_eq_some_iff.mp known
  refine ⟨earlier, found, ?_⟩
  by_cases same : number = other
  · rw [if_pos same, if_pos same]
    cases terminal : sentence.isTerminal with
    | true => simp [Request.isDone, terminal]
    | false => simp [Request.isDone, terminal]
  · simp [same]

/-- A terminal sentence takes the entry of its tag out of the table. -/
theorem get?_absorb
    {tag : Text}
    (distinct : (Assoc.keys dispatcher.pending).Nodup)
    (number : Nat)
    (sentence : Sentence)
    (error : Option Error)
    (other : Text) :
    Assoc.get? other (dispatcher.absorb tag number sentence error).pending =
      if other = tag ∧ sentence.isTerminal = true then none
      else Assoc.get? other dispatcher.pending := by
  unfold absorb
  cases sentence.isTerminal with
  | false => simp
  | true =>
      by_cases same : other = tag
      · subst same
        simpa using Assoc.get?_erase_self distinct other
      · simpa [same] using Assoc.get?_erase_of_ne same dispatcher.pending

theorem nodup_keys_absorb
    (distinct : (Assoc.keys dispatcher.pending).Nodup)
    (tag : Text)
    (number : Nat)
    (sentence : Sentence)
    (error : Option Error) :
    (Assoc.keys (dispatcher.absorb tag number sentence error).pending).Nodup := by
  unfold absorb
  split
  · exact Assoc.nodup_keys_erase distinct tag
  · exact distinct

end Dispatcher

namespace Session

variable
  {Λ : Type}
  {host : Host Λ}
  {session : Session Λ}
  {number : Nat}
  {tag : Text}
  {request : Request}
  {sentence : Sentence}

/-- Handing a data sentence to a request that only observes notes at most its call. -/
theorem deliver_of_isObserving
    (known : session.request? number = some request)
    (observing : request.handler.isObserving = true)
    (host : Host Λ)
    (sentence : Sentence) :
    ∃ after, session.deliver host number sentence = (.accepted, after) ∧
      after.dispatcher = session.dispatcher ∧ after.link = session.link := by
  obtain ⟨onSentence, onComplete, handler, silent | observed, -⟩ :=
    Handler.exists_of_isObserving observing
  · subst silent
    exact ⟨session, by simp [deliver, known, handler], rfl, rfl⟩
  · subst observed
    exact ⟨session.note (.delivered request.tag sentence), by simp [deliver, known, handler], rfl,
      rfl⟩

/-- A terminal sentence sets the outcome of a request that only observes. -/
theorem retire_of_isObserving
    (known : session.request? number = some request)
    (observing : request.handler.isObserving = true)
    (incomplete : request.isDone = false)
    (host : Host Λ)
    (tag : Text) :
    session.retire host tag number =
      (session.remove tag).conclude number request request.finalError := by
  have kept : (session.remove tag).request? number = some request := known
  obtain ⟨onSentence, onComplete, handler, -, silent | observed⟩ :=
    Handler.exists_of_isObserving observing
  · subst silent
    rw [conclude_of_silent handler]
    simp [retire, finishLogged, finish, announce, known, incomplete, handler]
  · subst observed
    rw [conclude_of_callback handler]
    simp [retire, finishLogged, finish, announce, known, incomplete, handler]

/-- A request that only observes takes a sentence that is not fatal. -/
theorem feed_of_isObserving
    (known : session.request? number = some request)
    (observing : request.handler.isObserving = true)
    (incomplete : request.isDone = false)
    (notFatal : sentence.control ≠ .fatal)
    (host : Host Λ)
    (tag : Text) :
    ∃ error after, session.feed host tag number sentence = (.handled, after) ∧
      after.dispatcher = session.dispatcher.absorb tag number sentence error ∧
      after.link = session.link := by
  have folded : (session.modify number fun request =>
      { request with reply := request.reply.process sentence }).request? number =
      some { request with reply := request.reply.process sentence } := by
    rw [request?_modify, if_pos rfl, known, Option.map_some]
  by_cases data : sentence.control = .data
  · obtain ⟨after, delivered, dispatcher_eq, link_eq⟩ :=
      deliver_of_isObserving folded observing host sentence
    rw [feed_of_data host data, delivered]
    refine ⟨none, after, rfl, ?_, link_eq⟩
    rw [dispatcher_eq]
    simp [Dispatcher.absorb, isTerminal_of_data data, Session.modify, Dispatcher.modify]
  · cases terminal : sentence.isTerminal with
    | false =>
        rw [feed_of_other host data terminal]
        refine ⟨none, _, rfl, ?_, rfl⟩
        simp [Dispatcher.absorb, terminal, Session.modify, Dispatcher.modify]
    | true =>
        rw [feed_of_terminal host terminal, if_neg notFatal]
        rw [retire_of_isObserving folded observing incomplete]
        refine ⟨Request.finalError { request with reply := request.reply.process sentence }, _, rfl,
          ?_, link_conclude ..⟩
        rw [dispatcher_conclude]
        simp only [Dispatcher.absorb, terminal, if_true, Session.modify, Dispatcher.modify,
          Session.remove, Dispatcher.remove, List.modify_modify_eq]
        rfl

end Session
end RouterApi
