import RouterApi.Proofs.FatalSentences
import RouterApi.Proofs.Session.Prompt

/-!
# Turns of the reader

The background reader dispatches what its decoder holds, and then reads from the stream turn by
turn. In each turn it takes what one read returns, and what a secure transport still holds after it,
before it goes on dispatching. What it does is stated as a relation, and depends on all bytes, not
on the turns in which they arrive.
-/

namespace RouterApi

/-- What the reader takes in one turn: the bytes of one read, of which there is at least one, and
the pieces that a secure transport still held after it. -/
structure Turn where
  received : Bytes
  held : List Bytes := []
  arrived : received ≠ []

namespace Turn

/-- Hand the bytes of a turn to a decoder, as they are taken. -/
def feed (turn : Turn) (decoder : Wire.Decoder) : Wire.Decoder :=
  turn.held.foldl (fun decoder piece => decoder.feed piece) (decoder.feed turn.received)

/-- All bytes of a turn. -/
def bytes (turn : Turn) : Bytes :=
  turn.received ++ turn.held.flatten

theorem feed_eq (turn : Turn) (decoder : Wire.Decoder) :
    turn.feed decoder = decoder.feed turn.bytes := by
  rw [feed, bytes, Wire.Decoder.feed_append]
  generalize decoder.feed turn.received = fed
  induction turn.held generalizing fed with
  | nil => simp
  | cons piece rest inductionHypothesis =>
      rw [List.foldl_cons, inductionHypothesis, List.flatten_cons, Wire.Decoder.feed_append]

end Turn

namespace Client

/-- How the reader works, given what it takes in its turns until the stream ends: the sentences that
it passes to be dispatched, in order; what it ends with; and the client after that. It dispatches as
long as there is a complete sentence, and only then reads. -/
inductive Works : List Turn → Wire.Decoder → Client → List (List Text) → Error → Client → Prop
  | handled {turns decoder rest client after words passed exit final}
      (found : decoder.next = .ok (some (words, rest)))
      (dispatched : (client.noting (.ofTexts words)).dispatch readerHost (.ofTexts words) =
        (.handled, after))
      (later : Works turns rest after passed exit final) :
      Works turns decoder client (words :: passed) exit final
  | raised {turns decoder rest client after words error}
      (found : decoder.next = .ok (some (words, rest)))
      (dispatched : (client.noting (.ofTexts words)).dispatch readerHost (.ofTexts words) =
        (.raised error, after)) :
      Works turns decoder client [words] error (endReader error after)
  | failed {turns decoder client error}
      (failed : decoder.next = .error error) :
      Works turns decoder client [] (decoderEnd error client)
        (endReader (decoderEnd error client) client)
  | received {turn turns decoder client passed exit final}
      (incomplete : decoder.next = .ok none)
      (later : Works turns (turn.feed decoder) client passed exit final) :
      Works (turn :: turns) decoder client passed exit final
  | ended {decoder client}
      (incomplete : decoder.next = .ok none) :
      Works [] decoder client [] (Stream.endError decoder)
        (endReader (Stream.endError decoder) client)

variable {client final : Client} {decoder rest : Wire.Decoder} {turns : List Turn}
  {passed : List (List Text)} {exit : Error}

theorem IsPrompt.noting
    (prompt : Session.IsPrompt client)
    (sentence : Sentence) :
    (client.noting sentence).IsPrompt :=
  prompt

/-! ## What the decoder finds decides -/

section Cases

variable {words : List Text} {error : Error}

theorem works_iff_of_failed (failed : decoder.next = .error error) :
    Works turns decoder client passed exit final ↔
      passed = [] ∧ exit = decoderEnd error client ∧
        final = endReader (decoderEnd error client) client := by
  constructor
  · intro works
    cases works with
    | handled found | raised found => cases failed.symm.trans found
    | received incomplete | ended incomplete => cases failed.symm.trans incomplete
    | failed again =>
        cases failed.symm.trans again
        exact ⟨rfl, rfl, rfl⟩
  · rintro ⟨rfl, rfl, rfl⟩
    exact .failed failed

theorem works_iff_of_found (found : decoder.next = .ok (some (words, rest))) :
    Works turns decoder client passed exit final ↔
      (∃ after later, (client.noting (.ofTexts words)).dispatch readerHost (.ofTexts words) =
        (.handled, after) ∧ Works turns rest after later exit final ∧ passed = words :: later) ∨
      ∃ after, (client.noting (.ofTexts words)).dispatch readerHost (.ofTexts words) =
        (.raised exit, after) ∧ passed = [words] ∧ final = endReader exit after := by
  constructor
  · intro works
    cases works with
    | handled again dispatched later =>
        cases found.symm.trans again
        exact .inl ⟨_, _, dispatched, later, rfl⟩
    | raised again dispatched =>
        cases found.symm.trans again
        exact .inr ⟨_, dispatched, rfl, rfl⟩
    | failed failed => cases found.symm.trans failed
    | received incomplete | ended incomplete => cases found.symm.trans incomplete
  · rintro (⟨after, later, dispatched, works, rfl⟩ | ⟨after, dispatched, rfl, rfl⟩)
    · exact .handled found dispatched works
    · exact .raised found dispatched

theorem works_cons_iff_of_incomplete
    {turn : Turn}
    (incomplete : decoder.next = .ok none) :
    Works (turn :: turns) decoder client passed exit final ↔
      Works turns (turn.feed decoder) client passed exit final := by
  constructor
  · intro works
    cases works with
    | handled found | raised found => cases incomplete.symm.trans found
    | failed failed => cases incomplete.symm.trans failed
    | received again later => exact later
  · exact .received incomplete

theorem works_nil_iff_of_incomplete (incomplete : decoder.next = .ok none) :
    Works [] decoder client passed exit final ↔
      passed = [] ∧ exit = Stream.endError decoder ∧
        final = endReader (Stream.endError decoder) client := by
  constructor
  · intro works
    cases works with
    | handled found | raised found => cases incomplete.symm.trans found
    | failed failed => cases incomplete.symm.trans failed
    | ended again => exact ⟨rfl, rfl, rfl⟩
  · rintro ⟨rfl, rfl, rfl⟩
    exact .ended incomplete

end Cases

/-- There is one way for the reader to work. -/
theorem Works.unique
    {otherPassed : List (List Text)}
    {otherExit : Error}
    {otherFinal : Client}
    (works : Works turns decoder client passed exit final)
    (otherWorks : Works turns decoder client otherPassed otherExit otherFinal) :
    otherPassed = passed ∧ otherExit = exit ∧ otherFinal = final := by
  induction works generalizing otherPassed with
  | handled found dispatched later inductionHypothesis =>
      rcases (works_iff_of_found found).mp otherWorks with
        ⟨after, rest, again, otherLater, rfl⟩ | ⟨after, raised, -⟩
      · cases dispatched.symm.trans again
        obtain ⟨rfl, rfl, rfl⟩ := inductionHypothesis otherLater
        exact ⟨rfl, rfl, rfl⟩
      · cases dispatched.symm.trans raised
  | raised found dispatched =>
      rcases (works_iff_of_found found).mp otherWorks with
        ⟨after, rest, handled, -⟩ | ⟨after, again, rfl, rfl⟩
      · cases dispatched.symm.trans handled
      · cases dispatched.symm.trans again
        exact ⟨rfl, rfl, rfl⟩
  | failed failed => exact (works_iff_of_failed failed).mp otherWorks
  | received incomplete later inductionHypothesis =>
      exact inductionHypothesis ((works_cons_iff_of_incomplete incomplete).mp otherWorks)
  | ended incomplete => exact (works_nil_iff_of_incomplete incomplete).mp otherWorks

/-! ## All turns at once -/

/-- It makes no difference whether the bytes of a turn are in the buffer from the start. -/
theorem works_cons_iff
    {turn : Turn} :
    Works (turn :: turns) decoder client passed exit final ↔
      Works turns (decoder.feed turn.bytes) client passed exit final := by
  -- Both sides dispatch the complete sentences of the decoder first.
  have drains := Wire.Decoder.drains_drain decoder
  generalize decoder.drain.1 = sentences at drains
  generalize decoder.drain.2 = ending at drains
  induction drains generalizing client passed with
  | malformed failed =>
      rw [works_iff_of_failed failed,
        works_iff_of_failed (Wire.Decoder.next_feed_of_error failed turn.bytes)]
  | exhausted incomplete => rw [works_cons_iff_of_incomplete incomplete, Turn.feed_eq]
  | sentence found later inductionHypothesis =>
      rw [works_iff_of_found found,
        works_iff_of_found (Wire.Decoder.next_feed_of_some found turn.bytes)]
      simp only [inductionHypothesis]

/-- It makes no difference in which turns the bytes arrive. -/
theorem works_iff_gathered :
    Works turns decoder client passed exit final ↔
      Works [] (decoder.feed (turns.flatMap Turn.bytes)) client passed exit final := by
  induction turns generalizing decoder with
  | nil => rw [List.flatMap_nil, Wire.Decoder.feed_nil]
  | cons turn turns inductionHypothesis =>
      rw [works_cons_iff, inductionHypothesis, List.flatMap_cons, Wire.Decoder.feed_append]

/-- While the outstanding requests are prompt, the reader comes to an end. -/
theorem exists_works
    (prompt : client.IsPrompt)
    (decoder : Wire.Decoder) :
    ∃ passed exit final, Works [] decoder client passed exit final := by
  have drains := Wire.Decoder.drains_drain decoder
  generalize decoder.drain.1 = sentences at drains
  generalize decoder.drain.2 = ending at drains
  induction drains generalizing client with
  | malformed failed => exact ⟨_, _, _, .failed failed⟩
  | exhausted incomplete => exact ⟨_, _, _, .ended incomplete⟩
  | @sentence decoder rest words sentences ending found later inductionHypothesis =>
      have promptNoted := IsPrompt.noting prompt (.ofTexts words)
      have promptAfter := promptNoted.dispatch readerHost (.ofTexts words)
      have goesOn := promptNoted.dispatch_ne_stalled readerHost (.ofTexts words)
      cases dispatched : Session.dispatch readerHost (.ofTexts words)
          (client.noting (.ofTexts words)) with
      | mk outcome after =>
          rw [dispatched] at promptAfter goesOn
          cases outcome with
          | stalled number => exact absurd rfl (goesOn number)
          | raised error => exact ⟨_, _, _, .raised found dispatched⟩
          | handled =>
              obtain ⟨passed, exit, final, works⟩ := inductionHypothesis promptAfter
              exact ⟨_, _, _, .handled found dispatched works⟩

end Client
end RouterApi
