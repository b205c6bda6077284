import RouterApi.Session

/-!
# Completing requests

A request is completed once: by its terminal sentence, by a callback that failed, or because the
connection ended. Its completion is then announced to its callback or marked in its queue. A
callback may close the connection; how, is a parameter here.
-/

namespace RouterApi
namespace Session

variable {Λ : Type}

/-- Announce the completion of a request. -/
def announce (close : Session Λ → Session Λ) (number : Nat) (request : Request)
    (error : Option Error) (session : Session Λ) : Except Error Unit × Session Λ :=
  match request.handler with
  | .listener queue =>
      match queue.offer none with
      | .taken queue =>
          (.ok (), session.modify number fun request => { request with handler := .listener queue })
      | .full => (.ok (), session)
      | .failed error => (.error error, session)
  | .callbacks _ none => (.ok (), session)
  | .callbacks _ (some reaction) =>
      let session := session.note (.completed request.tag error)
      match reaction with
      | .observe => (.ok (), session)
      | .raise error => (.error error, session)
      | .cancel => (.ok (), session.note (.cancelled none))
      | .close => (.ok (), close session)

/-- Complete a request with its final error, unless it is complete already. The result tells whether
its callback failed. -/
def finish (close : Session Λ → Session Λ) (number : Nat) (error : Option Error)
    (session : Session Λ) : Except Error Unit × Session Λ :=
  match session.request? number with
  | none => (.ok (), session)
  | some request =>
      if request.isDone then (.ok (), session)
      else
        announce close number request error
          (session.modify number fun request => { request with outcome := some error })

/-- The log entry about a completion callback that failed. -/
def completionFailed (tag : Text) (session : Session Λ) : Session Λ :=
  session.log .error .request
    (literal "completion callback for tag " ++ tag ++ literal " failed")

/-- Complete a request, and log a failure of its callback under a tag. -/
def finishLogged (close : Session Λ → Session Λ) (tag : Text) (number : Nat)
    (error : Option Error) (session : Session Λ) : Session Λ :=
  match session.finish close number error with
  | (.ok (), session) => session
  | (.error _, session) => session.completionFailed tag

/-- Complete several requests with the same error. -/
def failEach (close : Session Λ → Session Λ) (error : Error) :
    List (Text × Nat) → Session Λ → Session Λ
  | [], session => session
  | (tag, number) :: rest, session =>
      failEach close error rest (session.finishLogged close tag number (some error))

/-- Complete every outstanding request with an error, and refuse further registrations. The first
failure of a connection is the one that is kept. -/
def failAll (close : Session Λ → Session Λ) (error : Error) (session : Session Λ) : Session Λ :=
  let outstanding := session.dispatcher.pending
  let dispatcher :=
    { session.dispatcher with
      failure := session.dispatcher.failure.or (some error)
      pending := [] }
  failEach close error outstanding { session with dispatcher }

end Session
end RouterApi
