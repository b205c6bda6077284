import RouterApi.Session

/-!
# Reading from listeners

A caller takes sentences from the queue of a listener one at a time, or all up to the end. Reading
ends at the end mark, or when the request is complete and the queue is empty; while the request is
outstanding, reading from an empty queue waits.
-/

namespace RouterApi

/-- What a caller finds that asks a listener for its next sentence. -/
inductive Taken
  | sentence (sentence : Sentence)
  | ended
  | waiting
  deriving DecidableEq, Repr

namespace Session

variable {Λ : Type}

/-- Replace the items in the queue of a listener. -/
def setItems (number : Nat) (queue : Queue) (items : List (Option Sentence))
    (session : Session Λ) : Session Λ :=
  session.modify number fun request =>
    { request with handler := .listener { queue with items } }

/-- Take the next sentence of a listener; nothing if the request is no listener. -/
def takeNext? (number : Nat) (session : Session Λ) : Option (Taken × Session Λ) :=
  match session.request? number with
  | some { handler := .listener queue, outcome, .. } =>
      match queue.items with
      | [] => some (if outcome.isSome then .ended else .waiting, session)
      | none :: rest => some (.ended, session.setItems number queue rest)
      | some sentence :: rest => some (.sentence sentence, session.setItems number queue rest)
  | _ => none

/-- Take all sentences of a listener up to the end. The inner result is absent while the request is
outstanding, the outer one if it is no listener. -/
def takeAll? (number : Nat) (session : Session Λ) :
    Option (Option (List Sentence) × Session Λ) :=
  match session.request? number with
  | some { handler := .listener queue, outcome, .. } =>
      if outcome.isSome then
        let (sentences, left) := Queue.takeAll queue.items
        some (some sentences, session.setItems number queue left)
      else some (none, session)
  | _ => none

end Session
end RouterApi
