import RouterApi.Proofs.Client.Submission
import RouterApi.Proofs.FatalSentences
import RouterApi.Proofs.Session.Observing

/-!
# Traffic on a connection

One caller issues commands, a device answers those that were written to it, and the reader of the
connection dispatches what has arrived. Issuing a command takes three steps: a request is made with
a new tag, it is registered, and its command is written. Between any two steps of the caller the
device may send, and the reader may dispatch. The device answers a command under its tag, any time
after the command was written, and not after a terminal sentence of that tag.
-/

namespace RouterApi

/-- What a caller has done for the command that it is about to issue, if there is one: it has made a
request, or made and registered it. -/
inductive Caller
  | idle
  | minted (number : Nat)
  | registered (number : Nat)

/-- A sentence with which the device answers the command of a request. -/
structure Response where
  command : Nat
  sentence : Sentence

/-- A sentence that was dispatched, and the number that the table had for its tag. -/
structure Landing where
  response : Response
  destination : Option Nat

/-- A client with its caller; the commands that were written, what the device has sent, what of it
is still in flight, and what has been dispatched. -/
structure Traffic where
  client : Client
  caller : Caller := .idle
  written : List Nat := []
  sent : List Response := []
  inFlight : List Response := []
  landed : List Landing := []

namespace Traffic

/-- The sentences that were dispatched to a request. -/
def received
    (number : Nat)
    (state : Traffic) : List Sentence :=
  (state.landed.filter (·.destination = some number)).map (·.response.sentence)

/-- The sentences that the device has sent for the command of a request. -/
def answers
    (number : Nat)
    (state : Traffic) : List Sentence :=
  (state.sent.filter (·.command = number)).map Response.sentence

/-- The sentences for the command of a request that are still in flight. -/
def awaited
    (number : Nat)
    (state : Traffic) : List Sentence :=
  (state.inFlight.filter (·.command = number)).map Response.sentence

/-- Whether the device may send a sentence. It has the tag of a command that was written and that no
terminal sentence has answered, and it is not fatal. -/
def permits
    (response : Response)
    (state : Traffic) : Bool :=
  response.command ∈ state.written &&
    response.sentence.tag = (state.client.request? response.command).map Request.tag &&
    response.sentence.control ≠ .fatal &&
    state.sent.all fun earlier =>
      earlier.sentence.tag ≠ response.sentence.tag || !earlier.sentence.isTerminal

/-- Write the command of a request that is registered. A request whose command could not be written
is taken out of the table again, unless the error is not one of the API. -/
def transmit
    (number : Nat)
    (state : Traffic) : Traffic :=
  match state.client.request? number with
  | none => state
  | some request =>
      match Client.write Client.close
          (request.words ++ [.text (Word.ofTag (.text request.tag))]) state.client with
      | (.ok (), client) =>
          { state with client, caller := .idle, written := state.written ++ [number] }
      | (.error error, client) =>
          { state with
            client := if error.kind.isApi then client.remove request.tag else client
            caller := .idle }

/-- A step of the caller, of the device, or of the reader. -/
inductive Action
  | mint (words : List Word) (handler : Handler)
  | register
  | write
  | answer (response : Response)
  | dispatch

/-- The state after an action. An action that is not possible changes nothing. The callbacks of a
command only observe. -/
def act
    (state : Traffic) : Action → Traffic
  | .mint words handler =>
      match state.caller, handler.isObserving with
      | .idle, true =>
          { state with
            client := state.client.enlist words handler
            caller := .minted state.client.dispatcher.requests.length }
      | _, _ => state
  | .register =>
      match state.caller with
      | .minted number =>
          match state.client.dispatcher.register number with
          | .ok dispatcher =>
              { state with
                client := { state.client with dispatcher }
                caller := .registered number }
          | .error _ => { state with caller := .idle }
      | _ => state
  | .write =>
      match state.caller with
      | .registered number => state.transmit number
      | _ => state
  | .answer response =>
      if state.permits response then
        { state with
          sent := state.sent ++ [response]
          inFlight := state.inFlight ++ [response] }
      else state
  | .dispatch =>
      match state.inFlight with
      | [] => state
      | response :: later =>
          { state with
            client := ((state.client.noting response.sentence).dispatch Client.readerHost
              response.sentence).2
            inFlight := later
            landed := state.landed ++
              [{ response, destination := response.sentence.tag.bind (state.client.lookup? ·) }] }

/-- The state after several actions. -/
def actAll
    (actions : List Action)
    (state : Traffic) : Traffic :=
  actions.foldl act state

variable {state : Traffic} {words : List Word} {handler : Handler}

/-- The three steps of the caller, without any other in between, are the submission of a command. -/
theorem client_actAll_submission
    (idle : state.caller = .idle)
    (observing : handler.isObserving = true) :
    (state.actAll [.mint words handler, .register, .write]).client =
      (Client.submit Client.close words handler state.client).2 := by
  have minted : state.act (.mint words handler) =
      { state with
        client := state.client.enlist words handler
        caller := .minted state.client.dispatcher.requests.length } := by
    simp [act, idle, observing]
  rw [Client.submit_eq]
  simp only [actAll, List.foldl, minted]
  cases registered : (state.client.enlist words handler).dispatcher.register
      state.client.dispatcher.requests.length with
  | error error => simp [act, registered]
  | ok dispatcher =>
      have made := Client.request?_enlist_self words handler state.client
      have known : Session.request? state.client.dispatcher.requests.length
          ({ state.client.enlist words handler with dispatcher } : Client) =
            some { tag := state.client.nextTag, words, handler } := by
        obtain ⟨-, -, rfl⟩ := (Dispatcher.register_eq_ok_iff made).mp registered
        exact made
      simp only [act, registered, transmit, known]
      cases written : Client.write Client.close (state.client.tagged words)
          { state.client with dispatcher } with
      | mk outcome after =>
          have transmitted : Client.write Client.close
              (words ++ [.text (Word.ofTag (.text state.client.nextTag))])
              { state.client.enlist words handler with dispatcher } = (outcome, after) := written
          simp only [transmitted]
          cases outcome with
          | ok => rfl
          | error => rfl

end Traffic
end RouterApi
