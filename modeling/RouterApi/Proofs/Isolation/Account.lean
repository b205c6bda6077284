import RouterApi.Proofs.Session.Table
import RouterApi.Session.Dispatch

/-!
# The account of a request

What a request makes of the sentences it is handed depends on nothing but the request itself, as
long as no callback closes the connection and no queue is bounded. This module states it as a
function of one request and one sentence, apart from any session.
-/

namespace RouterApi

/-- A callback is confined if it does not close the connection. -/
def Reaction.isConfined : Reaction → Bool
  | .close => false
  | .observe | .raise _ | .cancel => true

/-- A handler is confined if its callbacks are, or if its queue never makes the reader wait. -/
def Handler.isConfined : Handler → Bool
  | .callbacks onSentence onComplete =>
      onSentence.all Reaction.isConfined && onComplete.all Reaction.isConfined
  | .listener queue =>
      match queue.capacity with
      | .atMost _ => false
      | .unbounded | .unusable => true

namespace Request

/-- A request whose completion has been announced to its handler, and the call that this took. -/
def announced (error : Option Error) (request : Request) : Request × List Call :=
  match request.handler with
  | .callbacks _ none => (request, [])
  | .callbacks _ (some _) => (request, [.completed request.tag error])
  | .listener queue =>
      match queue.offer none with
      | .taken queue => ({ request with handler := .listener queue }, [])
      | .full | .failed _ => (request, [])

/-- A request after its completion with a final error, and the call that announces it. A request
that is complete already stays as it is. -/
def completed (error : Option Error) (request : Request) : Request × List Call :=
  if request.isDone then (request, []) else announced error { request with outcome := some error }

/-- What becomes of a data sentence: the error of a handler that failed, the request afterwards, and
the call that was made. -/
def delivered (sentence : Sentence) (request : Request) : Option Error × Request × List Call :=
  match request.handler with
  | .callbacks none _ => (none, request, [])
  | .callbacks (some reaction) _ =>
      let calls := [Call.delivered request.tag sentence]
      match reaction with
      | .raise error => (some error, request, calls)
      | .cancel => (none, { request with cancelled := request.cancelled || !request.isDone }, calls)
      | .observe | .close => (none, request, calls)
  | .listener queue =>
      match queue.offer (some sentence) with
      | .taken queue => (none, { request with handler := .listener queue }, [])
      | .failed error => (some error, request, [])
      | .full => (none, request, [])

@[simp] theorem tag_announced
    (error : Option Error)
    (request : Request) :
    (request.announced error).1.tag = request.tag := by
  unfold announced
  split
  · rfl
  · rfl
  · split <;> rfl

@[simp] theorem tag_completed
    (error : Option Error)
    (request : Request) :
    (request.completed error).1.tag = request.tag := by
  unfold completed
  split <;> simp

@[simp] theorem tag_delivered
    (sentence : Sentence)
    (request : Request) :
    (request.delivered sentence).2.1.tag = request.tag := by
  unfold delivered
  split
  · rfl
  · split <;> rfl
  · split <;> rfl

@[simp] theorem outcome_announced
    (error : Option Error)
    (request : Request) :
    (request.announced error).1.outcome = request.outcome := by
  unfold announced
  split
  · rfl
  · rfl
  · split <;> rfl

theorem outcome_completed
    (error : Option Error)
    (request : Request) :
    (request.completed error).1.outcome = request.outcome.or (some error) := by
  unfold completed
  cases done : request.isDone with
  | true =>
      obtain ⟨outcome, outcome_eq⟩ := Option.isSome_iff_exists.mp done
      simp [outcome_eq]
  | false =>
      have incomplete : request.outcome = none := by simpa [isDone] using done
      simp [incomplete]

theorem completed_of_isDone
    {request : Request}
    (done : request.isDone = true)
    (error : Option Error) :
    request.completed error = (request, []) := by
  simp [completed, done]

@[simp] theorem isDone_completed
    (error : Option Error)
    (request : Request) :
    (request.completed error).1.isDone = true := by
  rw [isDone, outcome_completed, Option.isSome_or]
  simp

end Request

/-- The account of a request: the request, whether sentences of its tag still reach it, and the
calls of its callbacks so far. -/
structure Account where
  request : Request
  isOutstanding : Bool := true
  calls : List Call := []

namespace Account

/-- The account after the completion of its request. -/
def complete (error : Option Error) (account : Account) : Account :=
  { request := (account.request.completed error).1
    isOutstanding := false
    calls := account.calls ++ (account.request.completed error).2 }

/-- The account after a data sentence has been handed over, with the error of a handler that
failed. -/
def deliver (sentence : Sentence) (account : Account) : Option Error × Account :=
  if sentence.control = .data then
    ((account.request.delivered sentence).1,
      { account with
        request := (account.request.delivered sentence).2.1
        calls := account.calls ++ (account.request.delivered sentence).2.2 })
  else (none, account)

/-- The account with a sentence folded into the reply of its request. -/
def process (sentence : Sentence) (account : Account) : Account :=
  { account with
    request := { account.request with reply := account.request.reply.process sentence } }

/-- The account after a handler has returned or failed: a failure completes the request, and so does
a terminal sentence. -/
def settle (sentence : Sentence) : Option Error × Account → Account
  | (some error, account) => account.complete (some error)
  | (none, account) =>
      if sentence.isTerminal then account.complete account.request.finalError else account

/-- The account after a sentence of its tag. -/
def receive (account : Account) (sentence : Sentence) : Account :=
  if account.isOutstanding then settle sentence ((account.process sentence).deliver sentence)
  else account

@[simp] theorem tag_complete
    (error : Option Error)
    (account : Account) :
    (account.complete error).request.tag = account.request.tag := by
  simp [complete]

@[simp] theorem tag_deliver
    (sentence : Sentence)
    (account : Account) :
    (account.deliver sentence).2.request.tag = account.request.tag := by
  unfold deliver
  split <;> simp

@[simp] theorem tag_settle
    (sentence : Sentence)
    (delivered : Option Error × Account) :
    (settle sentence delivered).request.tag = delivered.2.request.tag := by
  obtain ⟨failure, account⟩ := delivered
  cases failure with
  | some error => simp [settle]
  | none =>
      simp only [settle]
      split <;> simp

@[simp] theorem tag_receive
    (account : Account)
    (sentence : Sentence) :
    (account.receive sentence).request.tag = account.request.tag := by
  unfold receive
  split
  · simp [process]
  · rfl

/-! ## Several sentences -/

/-- The account after all those sentences that carry its tag. -/
def receiveAll (sentences : List Sentence) (account : Account) : Account :=
  (sentences.filter (·.tag == some account.request.tag)).foldl receive account

@[simp] theorem receiveAll_nil (account : Account) : account.receiveAll [] = account := rfl

@[simp] theorem tag_receiveAll
    (sentences : List Sentence)
    (account : Account) :
    (account.receiveAll sentences).request.tag = account.request.tag := by
  unfold receiveAll
  generalize sentences.filter _ = own
  induction own generalizing account with
  | nil => rfl
  | cons sentence later inductionHypothesis =>
      exact (inductionHypothesis _).trans (tag_receive account sentence)

theorem receiveAll_cons
    (sentence : Sentence)
    (later : List Sentence)
    (account : Account) :
    account.receiveAll (sentence :: later) =
      if sentence.tag = some account.request.tag then (account.receive sentence).receiveAll later
      else account.receiveAll later := by
  by_cases own : sentence.tag = some account.request.tag
  · simp [receiveAll, own]
  · simp [receiveAll, own]

/-- The account with calls that were made before all others. -/
def precededBy (earlier : List Call) (account : Account) : Account :=
  { account with calls := earlier ++ account.calls }

theorem complete_precededBy
    (earlier : List Call)
    (error : Option Error)
    (account : Account) :
    (account.precededBy earlier).complete error =
      (account.complete error).precededBy earlier := by
  simp [complete, precededBy]

theorem deliver_precededBy
    (earlier : List Call)
    (sentence : Sentence)
    (account : Account) :
    (account.precededBy earlier).deliver sentence =
      ((account.deliver sentence).1, (account.deliver sentence).2.precededBy earlier) := by
  unfold deliver
  split
  · simp [precededBy]
  · rfl

theorem settle_precededBy
    (earlier : List Call)
    (sentence : Sentence)
    (failure : Option Error)
    (account : Account) :
    settle sentence (failure, account.precededBy earlier) =
      (settle sentence (failure, account)).precededBy earlier := by
  cases failure with
  | some error => exact complete_precededBy earlier (some error) account
  | none =>
      simp only [settle]
      split
      · exact complete_precededBy earlier account.request.finalError account
      · rfl

/-- Calls made earlier have no influence on what an account makes of a sentence. -/
theorem receive_precededBy
    (earlier : List Call)
    (sentence : Sentence)
    (account : Account) :
    (account.precededBy earlier).receive sentence =
      (account.receive sentence).precededBy earlier := by
  unfold receive
  change (if account.isOutstanding then
    settle sentence (((account.process sentence).precededBy earlier).deliver sentence) else _) = _
  split
  · rw [deliver_precededBy, settle_precededBy]
  · rfl

theorem receiveAll_precededBy
    (earlier : List Call)
    (sentences : List Sentence)
    (account : Account) :
    (account.precededBy earlier).receiveAll sentences =
      (account.receiveAll sentences).precededBy earlier := by
  induction sentences generalizing account with
  | nil => rfl
  | cons sentence later inductionHypothesis =>
      rw [receiveAll_cons, receiveAll_cons, receive_precededBy]
      change (if sentence.tag = some account.request.tag then _ else _) = _
      split
      · exact inductionHypothesis _
      · exact inductionHypothesis _

end Account
end RouterApi
