import RouterApi.Stream
import RouterApi.Proofs.Wire.Grammar
import RouterApi.Proofs.Wire.Segments

/-!
# Lost framing

A decoder is handed bytes and asked for sentences, in any order. What it has handed out so far are
the sentences at the front of the bytes, and what follows them is in its buffer. Once it has failed
because of a byte that can start no prefix, it fails in the same way forever, and the sentences
before that byte have all been handed out.
-/

namespace RouterApi
namespace Wire
namespace Decoder

/-! ## Using a decoder -/

/-- What a decoder answers when it is asked for a sentence. -/
abbrev Answer := Except Error (Option (List Text))

/-- Ask a decoder for a sentence. Its bytes are taken from the buffer only if it is handed out. -/
def ask (decoder : Decoder) : Answer × Decoder :=
  match decoder.next with
  | .error error => (.error error, decoder)
  | .ok none => (.ok none, decoder)
  | .ok (some (words, rest)) => (.ok (some words), rest)

/-- What can be done with a decoder. -/
inductive Use
  | feed (data : Bytes)
  | ask

/-- The answers of a decoder that is used, and the decoder after that. -/
def useAll : List Use → Decoder → List Answer × Decoder
  | [], decoder => ([], decoder)
  | .feed data :: uses, decoder => useAll uses (decoder.feed data)
  | .ask :: uses, decoder =>
      let (answers, last) := useAll uses decoder.ask.2
      (decoder.ask.1 :: answers, last)

/-- All bytes that a decoder is handed. -/
def fed : List Use → Bytes
  | [] => []
  | .feed data :: uses => data ++ fed uses
  | .ask :: uses => fed uses

/-- How often a decoder is asked. -/
def timesAsked : List Use → Nat
  | [] => 0
  | .feed _ :: uses => timesAsked uses
  | .ask :: uses => timesAsked uses + 1

/-- The sentence of an answer. -/
def sentence? : Answer → Option (List Text)
  | .ok words => words
  | .error _ => none

variable {decoder rest : Decoder} {words : List Text} {sentences : List (List Text)} {error : Error}

/-- A decoder that fails is left as it is. -/
theorem ask_of_error (failed : decoder.next = .error error) :
    decoder.ask = (.error error, decoder) := by
  rw [ask, failed]

/-- Once a decoder has handed out its answers, its buffer holds what follows their sentences. -/
theorem leads_useAll
    (uses : List Use)
    (decoder : Decoder) :
    Leads (decoder.feed (fed uses)) ((useAll uses decoder).1.filterMap sentence?)
      (useAll uses decoder).2 := by
  induction uses generalizing decoder with
  | nil =>
      rw [fed, feed_nil]
      exact .refl
  | cons use uses inductionHypothesis =>
      cases use with
      | feed data =>
          rw [fed, feed_append]
          exact inductionHypothesis (decoder.feed data)
      | ask =>
          cases next : decoder.next with
          | error error =>
              simp only [useAll, ask_of_error next]
              exact inductionHypothesis decoder
          | ok found =>
              cases found with
              | none =>
                  simp only [useAll, ask, next]
                  exact inductionHypothesis decoder
              | some found =>
                  -- The sentence comes first as well if all later bytes are handed over before.
                  simp only [useAll, ask, next]
                  exact .step (next_feed_of_some next (fed uses)) (inductionHypothesis found.2)

/-- A decoder that fails answers nothing else, whatever bytes it is handed. -/
theorem useAll_of_error
    (uses : List Use)
    (failed : decoder.next = .error error) :
    useAll uses decoder =
      (List.replicate (timesAsked uses) (.error error), decoder.feed (fed uses)) := by
  induction uses generalizing decoder with
  | nil => rw [useAll, timesAsked, List.replicate_zero, fed, feed_nil]
  | cons use uses inductionHypothesis =>
      cases use with
      | feed data =>
          rw [useAll, inductionHypothesis (next_feed_of_error failed data), fed, feed_append]
          rfl
      | ask =>
          rw [useAll, ask_of_error failed, inductionHypothesis failed]
          rfl

/-- What a decoder leads to follows the sentences that are handed out. -/
theorem Leads.startsWith (leads : Leads decoder sentences rest) :
    StartsWith decoder sentences rest := by
  induction leads with
  | refl => exact startsWith_nil _
  | step found _ inductionHypothesis => exact inductionHypothesis.cons found

/-! ## Framing -/

/-- A decoder that has lost its framing is left as it is, and gives the same error for as long as it
is used, whatever bytes it is handed. Its bytes are the sentences that it has handed out, which are
all that are complete before the error, and then words up to a byte that can start no prefix. -/
theorem framing_stays_lost
    {encoding : Value}
    {uses : List Use}
    {answers : List Answer}
    (used : useAll uses { encoding } = (answers, decoder))
    (lost : decoder.next = .error error)
    (isFraming : error.kind = .framing) :
    decoder.ask = (.error error, decoder) ∧
    (∀ stream, Stream.readSentence decoder stream = (.error error, decoder, stream)) ∧
    (∀ later, useAll later decoder =
      (List.replicate (timesAsked later) (.error error), decoder.feed (fed later))) ∧
    ∃ layouts : List Layout, ∃ breach : Breach, ∃ rest,
      error = .framing (.reservedByte breach.byte) ∧
      decoder.buffer = breach.bytes ++ rest ∧
      fed uses = layouts.flatMap Layout.bytes ++ decoder.buffer ∧
      List.Forall₂ (fun layout words => Decodes encoding layout.contents words)
        layouts (answers.filterMap sentence?) ∧
      ∀ complete more, fed uses = complete.flatMap Layout.bytes ++ more → complete <+: layouts := by
  have leads := leads_useAll uses { encoding }
  rw [used] at leads
  obtain ⟨-, layouts, fed_eq, decodes⟩ := leads.startsWith
  rw [buffer_feed, List.nil_append] at fed_eq
  obtain ⟨breach, rest, error_eq, buffer_eq⟩ :=
    exists_breach_of_scans (next_eq_error_iff.mp lost) rfl isFraming
  refine ⟨ask_of_error lost, ?_, fun later => useAll_of_error later lost, layouts, breach, rest,
    error_eq, buffer_eq, fed_eq, decodes, ?_⟩
  · intro stream
    unfold Stream.readSentence Stream.readSentenceFrom
    rw [lost]
  · intro complete more same
    rw [fed_eq, buffer_eq] at same
    exact breach.layouts_prefix same

/-- A sentence, and the start of one that breaks off after its first word. -/
def breakingOff : List Use :=
  [.feed [2, 0x2F, 0x78, 0, 1], .ask, .ask, .feed [0x61, 0xFF, 2], .ask]

/-- What is left of a decoder that has been used in this way. -/
def brokenOff : Decoder :=
  { encoding := .text Charset.utf8.commonName, buffer := [1, 0x61, 0xFF, 2] }

/-- The sentence is handed out, and after it only the error. -/
theorem framing_lost_of_breakingOff :
    useAll breakingOff { encoding := .text Charset.utf8.commonName } =
      ([.ok (some [literal "/x"]), .ok none, .error (.framing (.reservedByte 0xFF))],
        brokenOff) ∧
    brokenOff.next = .error (.framing (.reservedByte 0xFF)) ∧
    useAll [.feed [0], .ask, .ask] brokenOff =
      ([.error (.framing (.reservedByte 0xFF)), .error (.framing (.reservedByte 0xFF))],
        brokenOff.feed [0]) := by
  have used : useAll breakingOff { encoding := .text Charset.utf8.commonName } =
      ([.ok (some [literal "/x"]), .ok none, .error (.framing (.reservedByte 0xFF))],
        brokenOff) := by
    decide
  have lost : brokenOff.next = .error (.framing (.reservedByte 0xFF)) := by
    decide
  obtain ⟨-, -, later, -⟩ := framing_stays_lost used lost rfl
  exact ⟨used, lost, later [.feed [0], .ask, .ask]⟩

end Decoder
end Wire
end RouterApi
