import RouterApi.Journal
import RouterApi.Request
import RouterApi.Assoc

/-!
# Sessions

A session is the state of one connection: the table of outstanding requests, whatever the connection
itself consists of, and the journal. Tags are minted from a counter and never reused, so a late
sentence is never taken for the answer to a newer request.
-/

namespace RouterApi

/-- The requests of a connection. Every request ever made has a number, its position in the list;
the table maps the tags of the outstanding ones to their numbers, in order of registration. -/
structure Dispatcher where
  minted : Nat := 0
  requests : List Request := []
  pending : Assoc Text Nat := []
  failure : Option Error := none
  unmatched : Nat := 0
  lastError : Option Error := none
  deriving DecidableEq

namespace Dispatcher

/-- A new tag. -/
def mint (dispatcher : Dispatcher) : Text × Dispatcher :=
  let count := dispatcher.minted + 1
  (Text.ofNat count, { dispatcher with minted := count })

/-- Give a request its number. -/
def adopt (request : Request) (dispatcher : Dispatcher) : Nat × Dispatcher :=
  (dispatcher.requests.length,
    { dispatcher with requests := dispatcher.requests ++ [request] })

/-- The request of a number. -/
def request? (number : Nat) (dispatcher : Dispatcher) : Option Request :=
  dispatcher.requests[number]?

/-- Change the request of a number. -/
def modify (number : Nat) (change : Request → Request) (dispatcher : Dispatcher) : Dispatcher :=
  { dispatcher with requests := dispatcher.requests.modify number change }

/-- Put a request in the table, unless the connection has failed or the tag is taken. -/
def register (number : Nat) (dispatcher : Dispatcher) : Except Error Dispatcher :=
  match dispatcher.failure, dispatcher.request? number with
  | some failure, _ => .error (.closed (.refused failure.message))
  | none, none => .ok dispatcher
  | none, some request =>
      if (Assoc.get? request.tag dispatcher.pending).isSome then .error (.tagInUse request.tag)
      else .ok { dispatcher with pending := dispatcher.pending.set request.tag number }

/-- Take a request out of the table. -/
def remove (tag : Text) (dispatcher : Dispatcher) : Dispatcher :=
  { dispatcher with pending := dispatcher.pending.erase tag }

@[simp] theorem request?_modify (number other : Nat) (change : Request → Request)
    (dispatcher : Dispatcher) :
    (dispatcher.modify number change).request? other =
      if number = other then (dispatcher.request? other).map change
      else dispatcher.request? other := by
  by_cases same : number = other <;> simp [modify, request?, same]

@[simp] theorem pending_modify (number : Nat) (change : Request → Request)
    (dispatcher : Dispatcher) :
    (dispatcher.modify number change).pending = dispatcher.pending := rfl

/-- The number of a new request is that of no other. -/
theorem request?_adopt_self (request : Request) (dispatcher : Dispatcher) :
    (dispatcher.adopt request).2.request? (dispatcher.adopt request).1 = some request := by
  simp [adopt, request?]

theorem request?_adopt_of_lt (request : Request) (dispatcher : Dispatcher) {number : Nat}
    (known : number < dispatcher.requests.length) :
    (dispatcher.adopt request).2.request? number = dispatcher.request? number := by
  simp [adopt, request?, List.getElem?_append_left known]

end Dispatcher

/-- The state of a connection, whose own part is of type `Λ`. -/
structure Session (Λ : Type) where
  dispatcher : Dispatcher := {}
  link : Λ
  journal : Journal := {}

namespace Session

variable {Λ : Type}

/-- Add an entry to the log. -/
def log (level : LogLevel) (source : LogSource) (message : Text) (session : Session Λ) :
    Session Λ :=
  { session with journal :=
    { session.journal with log := session.journal.log ++ [⟨level, source, message⟩] } }

/-- Note a call of a callback. -/
def note (call : Call) (session : Session Λ) : Session Λ :=
  { session with journal := { session.journal with calls := session.journal.calls ++ [call] } }

/-- Change what the connection itself consists of. -/
def modifyLink (change : Λ → Λ) (session : Session Λ) : Session Λ :=
  { session with link := change session.link }

/-- The request of a number. -/
def request? (number : Nat) (session : Session Λ) : Option Request :=
  session.dispatcher.request? number

/-- Change the request of a number. -/
def modify (number : Nat) (change : Request → Request) (session : Session Λ) : Session Λ :=
  { session with dispatcher := session.dispatcher.modify number change }

/-- Take a request out of the table. -/
def remove (tag : Text) (session : Session Λ) : Session Λ :=
  { session with dispatcher := session.dispatcher.remove tag }

/-- The number of the outstanding request of a tag. -/
def lookup? (tag : Text) (session : Session Λ) : Option Nat :=
  Assoc.get? tag session.dispatcher.pending

end Session
end RouterApi
