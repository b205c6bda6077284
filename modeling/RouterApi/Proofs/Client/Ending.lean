import RouterApi.Proofs.Client.Quiet
import RouterApi.Proofs.Client.Closing
import RouterApi.Proofs.Client.Runs
import RouterApi.Proofs.Session.Failing

/-!
# The end of the reader

Whatever ends the reader cuts the connection off, and becomes the outcome of every request that is
outstanding at that time.
-/

namespace RouterApi
namespace Client

variable {client : Client} {number : Nat}

/-- Closing a connection without outstanding requests leaves its requests alone. -/
theorem isIdle_shutDown : Session.IsIdle shutDown where
  pending_eq {client} empty := by
    unfold shutDown
    split
    · exact empty
    · exact Session.pending_failAll Session.isIdle_id _ _
  requests_eq {client} empty := by
    unfold shutDown
    split
    · rfl
    · show (Session.failAll id _ (closing client)).dispatcher.requests = client.dispatcher.requests
      have listed : (closing client).dispatcher.pending = [] := empty
      rw [Session.failAll, listed]
      rfl

/-- Closing an open connection completes the outstanding requests. -/
theorem request?_shutDown
    (isOpen : client.link.isClosed = false)
    (number : Nat) :
    client.shutDown.request? number =
      if number ∈ client.listed then
        (client.request? number).map fun request =>
          (request.completed (some (.closed .byCaller))).1
      else client.request? number := by
  unfold shutDown
  simp only [isOpen]
  exact Session.request?_failAll Session.isIdle_id _ client.closing number

theorem outcome?_shutDown
    (isOpen : client.link.isClosed = false)
    (number : Nat) :
    client.shutDown.outcome? number =
      if number ∈ client.listed then
        (client.outcome? number).map (·.or (some (some (.closed .byCaller))))
      else client.outcome? number :=
  Session.outcome?_of_completed (request?_shutDown isOpen number)

/-- The client whose reader is about to end, in so far as its requests are concerned. -/
def leaving
    (error : Error)
    (client : Client) : Client :=
  let client :=
    if error.kind.isApi then client
    else client.log .error .request (literal "unexpected error in reader thread")
  (client.modifyLink ({ · with reader := .ended error })).log .debug .request
    (literal "reader exiting: " ++ error.message)

theorem dispatcher_leaving
    (error : Error)
    (client : Client) :
    (client.leaving error).dispatcher = client.dispatcher := by
  unfold leaving
  split <;> rfl

/-- Once the requests have been completed, the connection is closed if it is still open. -/
theorem endReader_eq
    (error : Error)
    (client : Client) :
    ∃ level message, endReader error client =
      shutDown (logAbout level .client message
        (Session.failAll shutDown error (client.leaving error))) := by
  unfold endReader leaving
  generalize (if error.kind.isApi then client else _) = noted
  simp only
  split
  · exact ⟨_, _, rfl⟩
  · exact ⟨_, _, rfl⟩

/-- The end of the reader completes the outstanding requests. -/
theorem request?_endReader
    (error : Error)
    (client : Client)
    (number : Nat) :
    (endReader error client).request? number =
      if number ∈ client.listed then
        (client.request? number).map fun request => (request.completed (some error)).1
      else client.request? number := by
  have failed := Session.request?_failAll isIdle_shutDown error (client.leaving error) number
  obtain ⟨level, message, ended⟩ := endReader_eq error client
  have empty : (logAbout level .client message
      (Session.failAll shutDown error (client.leaving error))).dispatcher.pending = [] :=
    Session.pending_failAll isIdle_shutDown error (client.leaving error)
  rw [ended]
  refine (congrArg (·[number]?) (isIdle_shutDown.requests_eq empty)).trans ?_
  simp only [Session.listed, Session.request?, dispatcher_leaving] at failed
  exact failed

theorem outcome?_endReader
    (error : Error)
    (client : Client)
    (number : Nat) :
    (endReader error client).outcome? number =
      if number ∈ client.listed then (client.outcome? number).map (·.or (some (some error)))
      else client.outcome? number :=
  Session.outcome?_of_completed (request?_endReader error client number)

/-- The end of the reader cuts the connection off. -/
theorem isCutOff_endReader
    (error : Error)
    (client : Client) :
    (endReader error client).IsCutOff := by
  have failed := Session.hasFailed_failAll reaches_shutDown error (client.leaving error)
  obtain ⟨level, message, ended⟩ := endReader_eq error client
  rw [ended]
  cases isClosed : (Session.failAll shutDown error (client.leaving error)).link.isClosed with
  | true =>
      have cutOff : (logAbout level .client message
          (Session.failAll shutDown error (client.leaving error))).IsCutOff :=
        ⟨by simp [failed.1, logAbout, Session.log], failed.2, isClosed⟩
      exact stable_isCutOff.toSteady.shutDown cutOff
  | false => exact isCutOff_shutDown isClosed

theorem lt_length_endReader
    (error : Error)
    (known : number < client.dispatcher.requests.length) :
    number < (endReader error client).dispatcher.requests.length := by
  obtain ⟨level, message, ended⟩ := endReader_eq error client
  have steady := steady_known number
  have left : number < (client.leaving error).dispatcher.requests.length := by
    rwa [dispatcher_leaving]
  rw [ended]
  exact steady.shutDown (steady.logAbout _ _ _ (steady.failAll steady.shutDown error left))

end Client
end RouterApi
