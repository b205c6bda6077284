import RouterApi.Session.Completion

/-!
# Dispatching sentences

Each sentence is handed to the request registered for its tag. A sentence that belongs to no request
is counted, logged and skipped. A callback that fails ends its own request and nothing else. A fatal
sentence applies to the whole connection, and is raised.
-/

namespace RouterApi

/-- What the delivery of sentences asks of a connection: to cancel the command of a tag, which gives
a receipt or an error, to close itself, and whether to give up waiting for room in the queue of a
listener, which it does once it is closed. -/
structure Host (Λ : Type) where
  cancel : Text → Session Λ → Except Error Text × Session Λ
  close : Session Λ → Session Λ
  giveUp? : Λ → Option Λ

/-- What became of a data sentence. -/
inductive Delivery
  | accepted
  | failed (error : Error)
  | stalled
  deriving DecidableEq

/-- What became of a sentence: it was dealt with, it ends the connection, or it waits for room in
the queue of a listener. -/
inductive Dispatched
  | handled
  | raised (error : Error)
  | stalled (number : Nat)
  deriving DecidableEq

namespace Session

variable {Λ : Type}

/-- Ask for the command of a request to be stopped, unless the request is complete. -/
def cancelRequest (cancel : Text → Session Λ → Except Error Text × Session Λ) (number : Nat)
    (session : Session Λ) : Except Error (Option Text) × Session Λ :=
  match session.request? number with
  | none => (.ok none, session)
  | some request =>
      if request.isDone then (.ok none, session)
      else
        match cancel request.tag
            (session.modify number fun request => { request with cancelled := true }) with
        | (.ok receipt, session) => (.ok (some receipt), session)
        | (.error error, session) => (.error error, session)

/-- Hand a data sentence to the callback or the queue of a request. -/
def deliver (host : Host Λ) (number : Nat) (sentence : Sentence) (session : Session Λ) :
    Delivery × Session Λ :=
  match session.request? number with
  | none => (.accepted, session)
  | some request =>
      match request.handler with
      | .callbacks none _ => (.accepted, session)
      | .callbacks (some reaction) _ =>
          let session := session.note (.delivered request.tag sentence)
          match reaction with
          | .observe => (.accepted, session)
          | .raise error => (.failed error, session)
          | .close => (.accepted, host.close session)
          | .cancel =>
              match session.cancelRequest host.cancel number with
              | (.ok receipt, session) => (.accepted, session.note (.cancelled receipt))
              | (.error error, session) => (.failed error, session)
      | .listener queue =>
          match queue.offer (some sentence) with
          | .taken queue =>
              (.accepted,
                session.modify number fun request => { request with handler := .listener queue })
          | .failed error => (.failed error, session)
          | .full =>
              match host.giveUp? session.link with
              | none => (.stalled, session)
              | some link =>
                  (.accepted, { session with link }.log .debug .request
                    (literal "listener " ++ request.tag ++ literal ": discarding " ++
                      sentence.summary))

/-- Count and log a sentence that belongs to no request. -/
def unmatched (error : Error) (sentence : Sentence) (session : Session Λ) : Session Λ :=
  let dispatcher :=
    { session.dispatcher with
      unmatched := session.dispatcher.unmatched + 1
      lastError := some error }
  { session with dispatcher }.log .warning .request
    (error.message ++ literal ": " ++ sentence.summary)

/-- End a request whose callback failed. -/
def abandon (host : Host Λ) (tag : Text) (number : Nat) (error : Error) (session : Session Λ) :
    Session Λ :=
  ((session.log .error .request (literal "callback for tag " ++ tag ++ literal " failed")).remove
    tag).finishLogged host.close tag number (some error)

/-- Retire a request after its terminal sentence. -/
def retire (host : Host Λ) (tag : Text) (number : Nat) (session : Session Λ) : Session Λ :=
  let session := session.remove tag
  match session.request? number with
  | none => session
  | some request => session.finishLogged host.close tag number request.finalError

/-- Hand a sentence to the request of its tag. -/
def feed (host : Host Λ) (tag : Text) (number : Nat) (sentence : Sentence)
    (session : Session Λ) : Dispatched × Session Λ :=
  let session := session.modify number fun request =>
    { request with reply := request.reply.process sentence }
  let delivered :=
    if sentence.control = .data then session.deliver host number sentence
    else (.accepted, session)
  match delivered with
  | (.stalled, session) => (.stalled number, session)
  | (.failed error, session) => (.handled, session.abandon host tag number error)
  | (.accepted, session) =>
      let session := if sentence.isTerminal then session.retire host tag number else session
      if sentence.control = .fatal then
        (.raised (.reported (.fatal sentence) none), session)
      else (.handled, session)

/-- Hand a sentence to the request registered for its tag. -/
def dispatch (host : Host Λ) (sentence : Sentence) (session : Session Λ) :
    Dispatched × Session Λ :=
  match sentence.tag with
  | none =>
      match sentence.control with
      | .blank => (.handled, session)
      | .fatal => (.raised (.reported (.fatal sentence) none), session)
      | _ => (.handled, session.unmatched .untagged sentence)
  | some tag =>
      match session.lookup? tag with
      | none => (.handled, session.unmatched (.unregistered tag) sentence)
      | some number => session.feed host tag number sentence

end Session
end RouterApi
