import RouterApi.Sentence

/-!
# Replies

The sentences that answer one command are folded into a reply. Data sentences accumulate, and a
terminal sentence completes the reply. A trap does not: the device follows it with a done sentence.
The first failure is remembered, and makes the reply as a whole fail; data received around it is
kept.
-/

namespace RouterApi

/-- A sentence by which the device reports a failure. -/
inductive Failure
  | trap (sentence : Sentence)
  | fatal (sentence : Sentence)
  | unknown (sentence : Sentence)
  deriving DecidableEq, Repr

namespace Failure

/-- The sentence that reported the failure. -/
def sentence : Failure → Sentence
  | trap sentence | fatal sentence | unknown sentence => sentence

/-- The device's description of the failure. -/
def description (failure : Failure) : Text :=
  (failure.sentence.attribute? (literal "message")).getD []

/-- The device's category of the failure. -/
def category? (failure : Failure) : Option Text :=
  failure.sentence.attribute? (literal "category")

/-- Whether the device itself reported the failure, rather than an unrecognized control word. -/
def isDeviceReport : Failure → Bool
  | trap _ | fatal _ => true
  | unknown _ => false

/-- The failure that a sentence reports, if it reports one. -/
def ofSentence? (sentence : Sentence) : Option Failure :=
  match sentence.control with
  | .trap => some (trap sentence)
  | .fatal => some (fatal sentence)
  | .unknown => some (unknown sentence)
  | .data | .done | .empty | .blank => none

end Failure

/-- Whether no further sentence belongs to a reply after this one. -/
def Sentence.isTerminal (sentence : Sentence) : Bool :=
  match sentence.control with
  | .done | .fatal | .unknown => true
  | .data | .empty | .trap | .blank => false

/-- How far a reply has come. -/
inductive Progress
  | collecting
  | done
  | failed
  deriving DecidableEq, Repr

/-- The sentences received for one command so far. -/
structure Reply where
  data : List Sentence := []
  done : Option Sentence := none
  failure : Option Failure := none
  progress : Progress := .collecting
  deriving DecidableEq, Repr

namespace Reply

/-- Remember a failure unless an earlier one is remembered. -/
def record (failure : Failure) (reply : Reply) : Reply :=
  { reply with failure := reply.failure.or (some failure) }

/-- Fold the next sentence into a reply. -/
def process (reply : Reply) (sentence : Sentence) : Reply :=
  match sentence.control with
  | .data => { reply with data := reply.data ++ [sentence] }
  | .done =>
      { reply with
        done := some sentence
        progress := if reply.failure.isNone then .done else .failed }
  | .empty => { reply with data := [] }
  | .trap => reply.record (.trap sentence)
  | .fatal => { reply.record (.fatal sentence) with done := some sentence, progress := .failed }
  | .unknown => { reply.record (.unknown sentence) with progress := .failed }
  | .blank => reply

/-- The first failure is the one that is remembered. -/
theorem failure_process (reply : Reply) (sentence : Sentence) :
    (reply.process sentence).failure = reply.failure.or (Failure.ofSentence? sentence) := by
  unfold process Failure.ofSentence?
  cases sentence.control <;> simp [record]

/-- Whether a terminal sentence has been received. -/
def isComplete (reply : Reply) : Bool :=
  reply.progress != .collecting

/-- The sentences of a reply as shown in logs, one per line, the terminal one last. -/
def summary (reply : Reply) : Text :=
  let last := match reply.done with
    | some sentence => sentence.summary
    | none => literal "None"
  Text.join (literal "\n") (reply.data.map Sentence.summary ++ [last])

end Reply
end RouterApi
