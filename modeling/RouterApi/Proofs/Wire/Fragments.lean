import RouterApi.Proofs.Wire.Layout

/-!
# Fragments of a byte stream

A decoder is drained by asking it for sentences until none is complete or one is malformed. What has
been handed out does not depend on the bytes that come later, so a stream may be handed over in any
fragments: the same sentences come out, up to the same error or with the same bytes left.
-/

namespace RouterApi
namespace Wire
namespace Decoder

/-! ## Draining -/

/-- How a decoder is drained: sentence after sentence, up to an error or until none is complete. -/
inductive Drains : Decoder → List (List Text) → Ending → Prop
  | malformed {decoder error}
      (failed : decoder.next = .error error) :
      Drains decoder [] (.error error)
  | exhausted {decoder}
      (incomplete : decoder.next = .ok none) :
      Drains decoder [] (.ok decoder)
  | sentence {decoder rest words sentences ending}
      (found : decoder.next = .ok (some (words, rest)))
      (later : Drains rest sentences ending) :
      Drains decoder (words :: sentences) ending

variable {decoder rest : Decoder} {words : List Text} {sentences : List (List Text)} {error : Error}
  {ending : Ending}

/-- Each sentence takes at least one byte, so a unit of fuel for each byte is enough. -/
theorem drains_drainFrom
    {fuel : Nat}
    (decoder : Decoder)
    (enough : decoder.buffer.length < fuel) :
    Drains decoder (drainFrom fuel decoder).1 (drainFrom fuel decoder).2 := by
  induction fuel generalizing decoder with
  | zero => contradiction
  | succ fuel inductionHypothesis =>
      unfold drainFrom
      cases next : decoder.next with
      | error error => exact .malformed next
      | ok scan =>
          cases scan with
          | none => exact .exhausted next
          | some found =>
              have shorter := length_next_lt next
              exact .sentence next (inductionHypothesis found.2 (by omega))

theorem drains_drain (decoder : Decoder) : Drains decoder decoder.drain.1 decoder.drain.2 :=
  drains_drainFrom decoder (Nat.lt_succ_self _)

/-- How a decoder is drained does not depend on fuel beyond the number of bytes. -/
theorem Drains.drainFrom_eq
    {fuel : Nat}
    (drains : Drains decoder sentences ending)
    (enough : decoder.buffer.length < fuel) :
    drainFrom fuel decoder = (sentences, ending) := by
  induction drains generalizing fuel with
  | malformed next | exhausted next =>
      cases fuel with
      | zero => contradiction
      | succ fuel => rw [drainFrom, next]
  | sentence found later inductionHypothesis =>
      cases fuel with
      | zero => contradiction
      | succ fuel =>
          have shorter := length_next_lt found
          have enoughLater := Nat.lt_of_lt_of_le shorter (Nat.le_of_lt_succ enough)
          have drained := inductionHypothesis enoughLater
          simp only [drainFrom, found, drained]

theorem drain_eq_iff :
    decoder.drain = (sentences, ending) ↔ Drains decoder sentences ending := by
  constructor
  · intro same
    have drains := drains_drain decoder
    rwa [same] at drains
  · intro drains
    exact drains.drainFrom_eq (Nat.lt_succ_self _)

/-- What is left of a decoder still has its encoding. -/
theorem Drains.encoding_eq (drains : Drains decoder sentences (.ok rest)) :
    rest.encoding = decoder.encoding := by
  generalize ending_eq : (.ok rest : Ending) = ending at drains
  induction drains with
  | malformed => cases ending_eq
  | exhausted =>
      cases ending_eq
      rfl
  | sentence found _ inductionHypothesis =>
      exact (inductionHypothesis ending_eq).trans (encoding_next found)

/-- A decoder from which no sentence comes is drained already. -/
theorem drain_of_next_eq_none (incomplete : decoder.next = .ok none) :
    decoder.drain = ([], .ok decoder) :=
  drain_eq_iff.mpr (.exhausted incomplete)

/-- No sentence is complete in what is left. -/
theorem Drains.next_eq_none
    (drains : Drains decoder sentences ending)
    (exhausted : ending = .ok rest) :
    rest.next = .ok none := by
  induction drains with
  | malformed => cases exhausted
  | exhausted incomplete =>
      cases exhausted
      exact incomplete
  | sentence found later inductionHypothesis => exact inductionHypothesis exhausted

/-- An error stays the first when more bytes follow. -/
theorem Drains.feed_of_error
    (drains : Drains decoder sentences ending)
    (failed : ending = .error error)
    (more : Bytes) :
    Drains (decoder.feed more) sentences (.error error) := by
  induction drains with
  | malformed malformed =>
      cases failed
      exact .malformed (next_feed_of_error malformed more)
  | exhausted => cases failed
  | sentence found later inductionHypothesis =>
      exact .sentence (next_feed_of_some found more) (inductionHypothesis failed)

/-- Bytes that follow are drained with what was left before. -/
theorem Drains.feed
    {others : List (List Text)}
    {last : Ending}
    {more : Bytes}
    (drains : Drains decoder sentences ending)
    (exhausted : ending = .ok rest)
    (later : Drains (rest.feed more) others last) :
    Drains (decoder.feed more) (sentences ++ others) last := by
  induction drains with
  | malformed => cases exhausted
  | exhausted =>
      cases exhausted
      exact later
  | sentence found _ inductionHypothesis =>
      exact .sentence (next_feed_of_some found more) (inductionHypothesis exhausted)

/-! ## Fragments -/

/-- Hand fragments to a decoder one by one, and drain it after each, up to the first error. -/
def drainPieces : List Bytes → Decoder → List (List Text) × Ending
  | [], decoder => ([], .ok decoder)
  | piece :: pieces, decoder =>
      match (decoder.feed piece).drain with
      | (sentences, .error error) => (sentences, .error error)
      | (sentences, .ok rest) =>
          let (later, ending) := drainPieces pieces rest
          (sentences ++ later, ending)

/-- It does not matter in which fragments bytes are handed to a decoder that is drained. -/
theorem drains_drainPieces
    (pieces : List Bytes)
    (incomplete : decoder.next = .ok none) :
    Drains (decoder.feed pieces.flatten)
      (drainPieces pieces decoder).1 (drainPieces pieces decoder).2 := by
  induction pieces generalizing decoder with
  | nil =>
      rw [List.flatten_nil, feed_nil]
      exact .exhausted incomplete
  | cons piece pieces inductionHypothesis =>
      have drains := drains_drain (decoder.feed piece)
      rw [List.flatten_cons, feed_append, drainPieces]
      cases drained : (decoder.feed piece).drain with
      | mk sentences ending =>
          rw [drained] at drains
          cases ending with
          | error error => exact drains.feed_of_error rfl pieces.flatten
          | ok rest =>
              -- No sentence is complete in what a fragment leaves, so the induction applies to it.
              exact drains.feed rfl (inductionHypothesis (drains.next_eq_none rfl))

/-- There is no sentence in an empty buffer. -/
theorem next_fresh (encoding : Value) : ({ encoding } : Decoder).next = .ok none :=
  next_eq_none_iff.mpr (.starved rfl)

/-- Sentences one after the other are drained one by one, and nothing is left. -/
theorem drain_flatten
    {encoding : Value}
    {pieces : List Bytes}
    (decoded : List.Forall₂ (fun piece words => decodeSentence encoding piece = .ok words)
      pieces sentences) :
    (({ encoding } : Decoder).feed pieces.flatten).drain = (sentences, .ok { encoding }) := by
  rw [drain_eq_iff]
  induction decoded with
  | nil => exact .exhausted (next_fresh encoding)
  | @cons piece words pieces sentences first _ inductionHypothesis =>
      obtain ⟨layout, rfl, decodes⟩ := decodeSentence_eq_ok_iff.mp first
      refine .sentence (next_eq_some_iff.mpr ⟨?_, ?_⟩) inductionHypothesis
      · rfl
      · exact scans_bytes decodes pieces.flatten

/-- Each sentence is handed out with exactly its own bytes taken from the buffer. -/
theorem exists_layout_of_next
    (found : decoder.next = .ok (some (words, rest))) :
    rest.encoding = decoder.encoding ∧
      ∃ layout : Layout, decoder.buffer = layout.bytes ++ rest.buffer ∧
        Decodes decoder.encoding layout.contents words := by
  obtain ⟨encoding_eq, scans⟩ := next_eq_some_iff.mp found
  exact ⟨encoding_eq, exists_layout_of_scans scans rfl⟩

/-- A decoder starts with sentences if its bytes are theirs, in some layouts, followed by those of
another decoder. -/
def StartsWith (decoder : Decoder) (sentences : List (List Text)) (left : Decoder) : Prop :=
  left.encoding = decoder.encoding ∧ ∃ layouts : List Layout,
    decoder.buffer = layouts.flatMap Layout.bytes ++ left.buffer ∧
      List.Forall₂ (fun layout words => Decodes decoder.encoding layout.contents words)
        layouts sentences

theorem startsWith_nil (decoder : Decoder) : StartsWith decoder [] decoder :=
  ⟨rfl, [], rfl, .nil⟩

/-- What is handed out is at the start. -/
theorem StartsWith.cons
    {left : Decoder}
    (found : decoder.next = .ok (some (words, rest)))
    (startsWith : StartsWith rest sentences left) :
    StartsWith decoder (words :: sentences) left := by
  obtain ⟨restEncoding_eq, layout, buffer_eq, decodes⟩ := exists_layout_of_next found
  obtain ⟨encoding_eq, layouts, restBuffer_eq, decodesAll⟩ := startsWith
  rw [restEncoding_eq] at encoding_eq decodesAll
  refine ⟨encoding_eq, layout :: layouts, ?_, .cons decodes decodesAll⟩
  rw [buffer_eq, restBuffer_eq, List.flatMap_cons, List.append_assoc]

/-- A stream gives the same sentences, up to the same first error or with the same bytes left,
in whatever fragments it arrives. Each sentence takes exactly its own bytes from the buffer, and a
decoder that has no complete sentence is left as it is. -/
theorem drainPieces_eq_drain
    (encoding : Value)
    (pieces : List Bytes) :
    drainPieces pieces { encoding } = (({ encoding } : Decoder).feed pieces.flatten).drain ∧
    ∀ decoder : Decoder,
      (∀ words rest, decoder.next = .ok (some (words, rest)) →
        rest.encoding = decoder.encoding ∧
          ∃ layout : Layout, decoder.buffer = layout.bytes ++ rest.buffer ∧
            Decodes decoder.encoding layout.contents words) ∧
      (decoder.next = .ok none → decoder.drain = ([], .ok decoder)) := by
  refine ⟨?_, fun decoder => ⟨?_, drain_of_next_eq_none⟩⟩
  · exact (drain_eq_iff.mpr (drains_drainPieces pieces (next_fresh encoding))).symm
  · intro words rest found
    exact exists_layout_of_next found

end Decoder
end Wire
end RouterApi
