import RouterApi.Error
import RouterApi.Word

/-!
# Requests

A request tracks one tagged command until its terminal sentence arrives. Its data sentences go to a
callback, or to the queue of a listener, which is read at the caller's own pace. A queue may be
bounded; the end of the command is marked in the queue when there is room for the mark.
-/

namespace RouterApi

/-- What a callback does once it has been called. -/
inductive Reaction
  | observe
  | raise (error : Error)
  | cancel
  | close
  deriving DecidableEq

/-- How many items a queue can hold. -/
inductive Capacity
  | unbounded
  | atMost (count : Nat)
  | unusable
  deriving DecidableEq, Repr

namespace Capacity

/-- The least natural number of items that reaches a positive fraction. -/
def reaching (numerator : Int) (denominator : Nat) : Capacity :=
  if numerator ≤ 0 then unbounded
  else atMost ((numerator.toNat + denominator - 1) / denominator)

/-- The capacity that a value stands for: no bound unless it is positive; what is no number cannot
be compared with a count of items. -/
def ofValue (value : Value) : Capacity :=
  match value.fraction?, value with
  | some (numerator, denominator), _ => reaching numerator denominator
  | none, .float _ => unbounded
  | none, _ => unusable

end Capacity

/-- The queue of a listener. An absent sentence marks the end. -/
structure Queue where
  capacity : Capacity
  items : List (Option Sentence) := []
  deriving DecidableEq, Repr

/-- What becomes of an item that is offered to a queue. -/
inductive Queue.Offer
  | taken (queue : Queue)
  | full
  | failed (error : Error)
  deriving DecidableEq

namespace Queue

/-- Offer an item to a queue. -/
def offer (item : Option Sentence) (queue : Queue) : Offer :=
  match queue.capacity with
  | .unbounded => .taken { queue with items := queue.items ++ [item] }
  | .atMost count =>
      if queue.items.length < count then .taken { queue with items := queue.items ++ [item] }
      else .full
  | .unusable => .failed (.unsupported .type)

/-- The sentences up to the end mark or, without one, to the end of the queue; and what is left
after the mark. -/
def takeAll : List (Option Sentence) → List Sentence × List (Option Sentence)
  | [] => ([], [])
  | none :: rest => ([], rest)
  | some sentence :: rest =>
      let (sentences, left) := takeAll rest
      (sentence :: sentences, left)

end Queue

/-- Where the data sentences and the completion of a request go. -/
inductive Handler
  | callbacks (onSentence onComplete : Option Reaction)
  | listener (queue : Queue)
  deriving DecidableEq

/-- One tagged command. The outcome is absent until the request is complete, and then holds the
final error, if any. -/
structure Request where
  tag : Text
  words : List Word
  handler : Handler
  reply : Reply := {}
  cancelled : Bool := false
  outcome : Option (Option Error) := none
  deriving DecidableEq

namespace Request

/-- Whether a request is complete. -/
def isDone (request : Request) : Bool :=
  request.outcome.isSome

/-- The final error of a request. -/
def error? (request : Request) : Option Error :=
  request.outcome.join

/-- The category under which the device reports a command that was interrupted. -/
def interruptedCategory : Text := literal "2"

/-- The error with which a request completes after its terminal sentence. A command that was
cancelled may end as interrupted without an error. -/
def finalError (request : Request) : Option Error :=
  match request.reply.failure with
  | none => none
  | some failure =>
      if request.cancelled && failure.isDeviceReport &&
          failure.category? == some interruptedCategory then none
      else request.reply.error?

/-- The reply of a complete request or its error; an error of its own if it is not complete. -/
def wait (request : Request) : Except Error Reply :=
  match request.outcome with
  | none => .error (.timedOut request.tag 0)
  | some (some error) => .error error
  | some none => .ok request.reply

/-- A request as shown to a developer, with secret values replaced. -/
def inspect (request : Request) : Except Error Text :=
  (Word.maskedAll request.words).map fun words =>
    literal "REQ @" ++ request.tag ++ literal ": " ++ Text.bracketed (words.map Text.quoted)

end Request
end RouterApi
