import RouterApi.Proofs.Session.Table
import RouterApi.Session.Dispatch

/-!
# Outcomes of completion and delivery

What completing a request comes to, and what handing a data sentence to it comes to, is stated as a
relation with one case for each way it can go. What a callback does to the session comes last, after
its call has been noted.
-/

namespace RouterApi

/-- What the callback for data sentences does, if there is one. -/
def Handler.reaction? : Handler → Option Reaction
  | callbacks onSentence _ => onSentence
  | listener _ => none

namespace Session

variable {Λ : Type}

/-- Set the outcome of a request, and note the call of its completion callback if it has one. -/
def conclude
    (number : Nat)
    (request : Request)
    (error : Option Error)
    (session : Session Λ) : Session Λ :=
  let session := session.modify number fun request => { request with outcome := some error }
  match request.handler with
  | .callbacks _ (some _) => session.note (.completed request.tag error)
  | .callbacks _ none | .listener _ => session

/-- Empty the table, and refuse further registrations with an error. -/
def cutOff
    (error : Error)
    (session : Session Λ) : Session Λ :=
  { session with
    dispatcher :=
      { session.dispatcher with
        failure := session.dispatcher.failure.or (some error)
        pending := [] } }

variable {close : Session Λ → Session Λ} {host : Host Λ} {session : Session Λ} {number : Nat}

@[simp] theorem dispatcher_conclude
    (number : Nat)
    (request : Request)
    (error : Option Error)
    (session : Session Λ) :
    (session.conclude number request error).dispatcher =
      (session.modify number fun request => { request with outcome := some error }).dispatcher := by
  unfold Session.conclude
  split <;> rfl

@[simp] theorem link_conclude
    (number : Nat)
    (request : Request)
    (error : Option Error)
    (session : Session Λ) :
    (session.conclude number request error).link = session.link := by
  unfold Session.conclude
  split <;> rfl

@[simp] theorem length_conclude
    (number : Nat)
    (request : Request)
    (error : Option Error)
    (session : Session Λ) :
    (session.conclude number request error).dispatcher.requests.length =
      session.dispatcher.requests.length := by
  rw [dispatcher_conclude, length_modify]

section Conclude

variable {request : Request} {error : Option Error}

theorem conclude_of_listener
    {queue : Queue}
    (handler : request.handler = .listener queue) :
    session.conclude number request error =
      session.modify number fun request => { request with outcome := some error } := by
  simp [Session.conclude, handler]

theorem conclude_of_silent
    {onSentence : Option Reaction}
    (handler : request.handler = .callbacks onSentence none) :
    session.conclude number request error =
      session.modify number fun request => { request with outcome := some error } := by
  simp [Session.conclude, handler]

theorem conclude_of_callback
    {onSentence : Option Reaction}
    {reaction : Reaction}
    (handler : request.handler = .callbacks onSentence (some reaction)) :
    session.conclude number request error =
      (session.modify number fun request => { request with outcome := some error }).note
        (.completed request.tag error) := by
  simp [Session.conclude, handler]

end Conclude

theorem request?_conclude
    (number other : Nat)
    (request : Request)
    (error : Option Error)
    (session : Session Λ) :
    (session.conclude number request error).request? other =
      (session.modify number fun request => { request with outcome := some error }).request?
        other :=
  congrArg (Dispatcher.request? other) (dispatcher_conclude number request error session)

/-! ## Completion -/

/-- What completing a request comes to. Nothing happens if it is complete already. Otherwise its
outcome is set and announced; the end is marked in the queue of a listener, and a callback may ask
for a cancellation, which is declined, or close the connection. -/
inductive Finishes
    (close : Session Λ → Session Λ)
    (number : Nat)
    (error : Option Error)
    (session : Session Λ) : Session Λ → Prop
  | idle
      (settled : ∀ request, session.request? number = some request → request.isDone = true) :
      Finishes close number error session session
  | announced {request}
      (known : session.request? number = some request)
      (outstanding : request.isDone = false) :
      Finishes close number error session (session.conclude number request error)
  | marked {request queue after}
      (known : session.request? number = some request)
      (outstanding : request.isDone = false)
      (handler : request.handler = .listener queue)
      (offered : queue.offer none = .taken after) :
      Finishes close number error session
        ((session.conclude number request error).modify number fun request =>
          { request with handler := .listener after })
  | declined {request}
      (known : session.request? number = some request)
      (outstanding : request.isDone = false) :
      Finishes close number error session
        ((session.conclude number request error).note (.cancelled none))
  | closed {request}
      (known : session.request? number = some request)
      (outstanding : request.isDone = false) :
      Finishes close number error session (close (session.conclude number request error))

theorem finishes_finish
    (close : Session Λ → Session Λ)
    (number : Nat)
    (error : Option Error)
    (session : Session Λ) :
    Finishes close number error session (session.finish close number error).2 := by
  unfold Session.finish
  cases known : session.request? number with
  | none => exact .idle (by simp [known])
  | some request =>
      cases done : request.isDone with
      | true =>
          simp only [done, if_true]
          exact .idle (by simp [known, done])
      | false =>
          simp only [done, Bool.false_eq_true, if_false]
          unfold Session.announce
          cases handler : request.handler with
          | listener queue =>
              simp only
              rw [← conclude_of_listener handler]
              cases offered : queue.offer none with
              | taken changed => exact .marked known done handler offered
              | full => exact .announced known done
              | failed failure => exact .announced known done
          | callbacks onSentence onComplete =>
              cases onComplete with
              | none =>
                  simp only
                  rw [← conclude_of_silent handler]
                  exact .announced known done
              | some reaction =>
                  simp only
                  rw [← conclude_of_callback handler]
                  cases reaction with
                  | observe | raise => exact .announced known done
                  | cancel => exact .declined known done
                  | close => exact .closed known done

/-- A failure of a completion callback is only logged. -/
theorem finishLogged_eq
    (close : Session Λ → Session Λ)
    (tag : Text)
    (number : Nat)
    (error : Option Error)
    (session : Session Λ) :
    session.finishLogged close tag number error = (session.finish close number error).2 ∨
      session.finishLogged close tag number error =
        (session.finish close number error).2.completionFailed tag := by
  unfold Session.finishLogged
  cases session.finish close number error with
  | mk result after =>
      cases result with
      | ok => exact .inl rfl
      | error failure => exact .inr rfl

/-! ## Cancellation -/

/-- What cancelling a request comes to. Nothing happens if it is complete; otherwise it is marked,
and the host is asked to stop the command of its tag. -/
inductive Cancels
    (cancel : Text → Session Λ → Except Error Text × Session Λ)
    (number : Nat)
    (session : Session Λ) : Session Λ → Prop
  | idle
      (settled : ∀ request, session.request? number = some request → request.isDone = true) :
      Cancels cancel number session session
  | asked {request}
      (known : session.request? number = some request)
      (outstanding : request.isDone = false) :
      Cancels cancel number session
        (cancel request.tag
          (session.modify number fun request => { request with cancelled := true })).2

theorem cancels_cancelRequest
    (cancel : Text → Session Λ → Except Error Text × Session Λ)
    (number : Nat)
    (session : Session Λ) :
    Cancels cancel number session (session.cancelRequest cancel number).2 := by
  unfold Session.cancelRequest
  cases known : session.request? number with
  | none => exact .idle (by simp [known])
  | some request =>
      cases done : request.isDone with
      | true =>
          simp only [done, if_true]
          exact .idle (by simp [known, done])
      | false =>
          simp only [done, Bool.false_eq_true, if_false]
          have asked : Cancels cancel number session _ := .asked known done
          generalize cancel request.tag _ = result at asked ⊢
          obtain ⟨receipt, after⟩ := result
          cases receipt with
          | ok receipt => exact asked
          | error failure => exact asked

/-- A tag is self-cancelling if it is that of a request whose callback for data sentences cancels
the request. -/
def IsSelfCancelling
    (tag : Text)
    (session : Session Λ) : Prop :=
  ∃ number request, session.request? number = some request ∧ request.tag = tag ∧
    request.handler.reaction? = some .cancel

theorem IsSelfCancelling.of_dispatcher_eq
    {tag : Text}
    {after : Session Λ}
    (dispatcher_eq : after.dispatcher = session.dispatcher)
    (cancelling : after.IsSelfCancelling tag) :
    session.IsSelfCancelling tag := by
  obtain ⟨number, request, known, tag_eq, reaction⟩ := cancelling
  rw [request?, dispatcher_eq] at known
  exact ⟨number, request, known, tag_eq, reaction⟩

/-- A change that keeps the tag of a request, and keeps its callback or leaves it none, makes no tag
self-cancelling. -/
theorem IsSelfCancelling.of_modify
    {tag : Text}
    {change : Request → Request}
    (keepsTag : ∀ request, (change request).tag = request.tag)
    (keepsReaction : ∀ request, (change request).handler.reaction? = request.handler.reaction? ∨
      (change request).handler.reaction? = none)
    (cancelling : (session.modify number change).IsSelfCancelling tag) :
    session.IsSelfCancelling tag := by
  obtain ⟨other, changed, known, rfl, reaction⟩ := cancelling
  rw [request?_modify] at known
  split at known
  · obtain ⟨request, before, rfl⟩ := Option.map_eq_some_iff.mp known
    refine ⟨other, request, before, (keepsTag request).symm, ?_⟩
    rcases keepsReaction request with same | gone
    · exact same.symm.trans reaction
    · rw [gone] at reaction
      contradiction
  · exact ⟨other, changed, known, rfl, reaction⟩

/-! ## Delivery -/

/-- What handing a data sentence to a request comes to. A listener queues it, or discards it if it
is full and the host gives up waiting for room. A callback is called, and may then fail, close the
connection, or ask for the request to be cancelled. -/
inductive Delivers
    (host : Host Λ)
    (number : Nat)
    (sentence : Sentence)
    (session : Session Λ) : Delivery → Session Λ → Prop
  | ignored :
      Delivers host number sentence session .accepted session
  | queued {request queue after}
      (known : session.request? number = some request)
      (handler : request.handler = .listener queue)
      (offered : queue.offer (some sentence) = .taken after) :
      Delivers host number sentence session .accepted
        (session.modify number fun request => { request with handler := .listener after })
  | refused {request queue error}
      (known : session.request? number = some request)
      (handler : request.handler = .listener queue)
      (offered : queue.offer (some sentence) = .failed error) :
      Delivers host number sentence session (.failed error) session
  | stalled {request queue}
      (known : session.request? number = some request)
      (handler : request.handler = .listener queue)
      (full : queue.offer (some sentence) = .full)
      (waiting : host.giveUp? session.link = none) :
      Delivers host number sentence session .stalled session
  | discarded {link message}
      (givenUp : host.giveUp? session.link = some link) :
      Delivers host number sentence session .accepted
        (({ session with link } : Session Λ).log .debug .request message)
  | called {request reaction onComplete}
      (known : session.request? number = some request)
      (handler : request.handler = .callbacks (some reaction) onComplete) :
      Delivers host number sentence session .accepted
        (session.note (.delivered request.tag sentence))
  | failed {request reaction onComplete error}
      (known : session.request? number = some request)
      (handler : request.handler = .callbacks (some reaction) onComplete) :
      Delivers host number sentence session (.failed error)
        (session.note (.delivered request.tag sentence))
  | closed {request reaction onComplete}
      (known : session.request? number = some request)
      (handler : request.handler = .callbacks (some reaction) onComplete) :
      Delivers host number sentence session .accepted
        (host.close (session.note (.delivered request.tag sentence)))
  | cancelled {request onComplete receipt after}
      (known : session.request? number = some request)
      (handler : request.handler = .callbacks (some .cancel) onComplete)
      (cancelled :
        (session.note (.delivered request.tag sentence)).cancelRequest host.cancel number =
          (.ok receipt, after)) :
      Delivers host number sentence session .accepted (after.note (.cancelled receipt))
  | notCancelled {request onComplete error after}
      (known : session.request? number = some request)
      (handler : request.handler = .callbacks (some .cancel) onComplete)
      (cancelled :
        (session.note (.delivered request.tag sentence)).cancelRequest host.cancel number =
          (.error error, after)) :
      Delivers host number sentence session (.failed error) after

theorem delivers_deliver
    (host : Host Λ)
    (number : Nat)
    (sentence : Sentence)
    (session : Session Λ) :
    Delivers host number sentence session (session.deliver host number sentence).1
      (session.deliver host number sentence).2 := by
  unfold Session.deliver
  cases known : session.request? number with
  | none => exact .ignored
  | some request =>
      cases handler : request.handler with
      | listener queue =>
          simp only [handler]
          cases offered : queue.offer (some sentence) with
          | taken changed => exact .queued known handler offered
          | failed failure => exact .refused known handler offered
          | full =>
              cases givenUp : host.giveUp? session.link with
              | none => exact .stalled known handler offered givenUp
              | some link => exact .discarded givenUp
      | callbacks onSentence onComplete =>
          cases onSentence with
          | none =>
              simp only [handler]
              exact .ignored
          | some reaction =>
              simp only [handler]
              cases reaction with
              | observe => exact .called known handler
              | raise failure => exact .failed known handler
              | close => exact .closed known handler
              | cancel =>
                  cases result : (session.note (.delivered request.tag sentence)).cancelRequest
                      host.cancel number with
                  | mk receipt after =>
                      cases receipt with
                      | ok receipt => exact .cancelled known handler result
                      | error failure => exact .notCancelled known handler result

/-! ## Dispatch -/

/-- What handing a sentence to a request comes to, once it has been folded into the reply. A data
sentence is delivered; if that fails, the request is abandoned. A terminal sentence retires it. -/
inductive Feeds
    (host : Host Λ)
    (tag : Text)
    (number : Nat)
    (sentence : Sentence)
    (folded : Session Λ) : Session Λ → Prop
  | collected :
      Feeds host tag number sentence folded folded
  | delivered {delivery after}
      (delivers : Delivers host number sentence folded delivery after) :
      Feeds host tag number sentence folded after
  | abandoned {error after}
      (delivers : Delivers host number sentence folded (.failed error) after) :
      Feeds host tag number sentence folded (after.abandon host tag number error)
  | retired
      (terminal : sentence.isTerminal = true) :
      Feeds host tag number sentence folded (folded.retire host tag number)

/-- A data sentence is not terminal. -/
theorem isTerminal_of_data
    {sentence : Sentence}
    (data : sentence.control = .data) :
    sentence.isTerminal = false := by
  rw [Sentence.isTerminal, data]

theorem ne_data_of_isTerminal
    {sentence : Sentence}
    (terminal : sentence.isTerminal = true) :
    sentence.control ≠ .data := by
  intro data
  rw [isTerminal_of_data data] at terminal
  contradiction

theorem isTerminal_of_fatal
    {sentence : Sentence}
    (fatal : sentence.control = .fatal) :
    sentence.isTerminal = true := by
  rw [Sentence.isTerminal, fatal]

/-- A data sentence is delivered, and neither retires its request nor is raised. -/
theorem feed_of_data
    (host : Host Λ)
    {sentence : Sentence}
    (data : sentence.control = .data)
    (tag : Text)
    (number : Nat)
    (session : Session Λ) :
    session.feed host tag number sentence =
      match (session.modify number fun request =>
        { request with reply := request.reply.process sentence }).deliver host number sentence with
      | (.stalled, after) => (.stalled number, after)
      | (.failed error, after) => (.handled, after.abandon host tag number error)
      | (.accepted, after) => (.handled, after) := by
  have fatal : sentence.control ≠ .fatal := by simp [data]
  simp only [feed, if_pos data, isTerminal_of_data data, if_neg fatal]
  rfl

/-- Any other sentence is folded into the reply. It retires its request if it is terminal, and is
raised if it is fatal. -/
theorem feed_of_ne_data
    (host : Host Λ)
    {sentence : Sentence}
    (notData : sentence.control ≠ .data)
    (tag : Text)
    (number : Nat)
    (session : Session Λ) :
    session.feed host tag number sentence =
      (if sentence.control = .fatal then .raised (.reported (.fatal sentence) none) else .handled,
        if sentence.isTerminal then
          (session.modify number fun request =>
            { request with reply := request.reply.process sentence }).retire host tag number
        else
          session.modify number fun request =>
            { request with reply := request.reply.process sentence }) := by
  simp only [feed, if_neg notData]
  split
  · rfl
  · rfl

theorem feed_of_terminal
    (host : Host Λ)
    {sentence : Sentence}
    (terminal : sentence.isTerminal = true)
    (tag : Text)
    (number : Nat)
    (session : Session Λ) :
    session.feed host tag number sentence =
      (if sentence.control = .fatal then .raised (.reported (.fatal sentence) none) else .handled,
        (session.modify number fun request =>
          { request with reply := request.reply.process sentence }).retire host tag number) := by
  rw [feed_of_ne_data host (ne_data_of_isTerminal terminal), if_pos terminal]

theorem feed_of_other
    (host : Host Λ)
    {sentence : Sentence}
    (notData : sentence.control ≠ .data)
    (goesOn : sentence.isTerminal = false)
    (tag : Text)
    (number : Nat)
    (session : Session Λ) :
    session.feed host tag number sentence =
      (.handled, session.modify number fun request =>
        { request with reply := request.reply.process sentence }) := by
  have fatal : sentence.control ≠ .fatal := by
    intro fatal
    rw [isTerminal_of_fatal fatal] at goesOn
    contradiction
  rw [feed_of_ne_data host notData, if_neg fatal, goesOn, if_neg Bool.false_ne_true]

theorem feeds_feed
    (host : Host Λ)
    (tag : Text)
    (number : Nat)
    (sentence : Sentence)
    (session : Session Λ) :
    Feeds host tag number sentence
      (session.modify number fun request =>
        { request with reply := request.reply.process sentence })
      (session.feed host tag number sentence).2 := by
  by_cases data : sentence.control = .data
  · rw [feed_of_data host data]
    generalize session.modify number _ = folded
    have delivers := delivers_deliver host number sentence folded
    generalize folded.deliver host number sentence = result at delivers ⊢
    obtain ⟨delivery, after⟩ := result
    cases delivery with
    | stalled | accepted => exact .delivered delivers
    | failed error => exact .abandoned delivers
  · rw [feed_of_ne_data host data]
    cases terminal : sentence.isTerminal with
    | true => exact .retired terminal
    | false => exact .collected

/-- A sentence with the tag of a registered request is handed to it. -/
theorem dispatch_of_lookup?_eq_some
    (host : Host Λ)
    {sentence : Sentence}
    {tag : Text}
    (tagged : sentence.tag = some tag)
    (found : session.lookup? tag = some number) :
    session.dispatch host sentence = session.feed host tag number sentence := by
  simp [dispatch, tagged, found]

/-- A sentence with any other tag is only counted. -/
theorem dispatch_of_lookup?_eq_none
    (host : Host Λ)
    {sentence : Sentence}
    {tag : Text}
    (tagged : sentence.tag = some tag)
    (absent : session.lookup? tag = none) :
    session.dispatch host sentence =
      (.handled, session.unmatched (.unregistered tag) sentence) := by
  simp [dispatch, tagged, absent]

/-- What dispatching a sentence comes to: nothing, an entry about a sentence that belongs to no
request, or the sentence is handed to the request registered for its tag. -/
inductive Dispatches
    (host : Host Λ)
    (sentence : Sentence)
    (session : Session Λ) : Session Λ → Prop
  | skipped :
      Dispatches host sentence session session
  | unmatched error :
      Dispatches host sentence session (session.unmatched error sentence)
  | fed {tag number}
      (found : session.lookup? tag = some number) :
      Dispatches host sentence session (session.feed host tag number sentence).2

theorem dispatches_dispatch
    (host : Host Λ)
    (sentence : Sentence)
    (session : Session Λ) :
    Dispatches host sentence session (session.dispatch host sentence).2 := by
  unfold Session.dispatch
  cases sentence.tag with
  | none =>
      cases sentence.control with
      | blank | fatal => exact .skipped
      | data | done | empty | trap | unknown => exact .unmatched _
  | some tag =>
      simp only
      cases found : session.lookup? tag with
      | none => exact .unmatched _
      | some number => exact .fed found

end Session
end RouterApi
