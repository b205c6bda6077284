import RouterApi.Wire.Decoder
import RouterApi.Proofs.Wire.LengthPrefix

/-!
# Scanning a buffer

How the front of a buffer is scanned for a sentence is stated as a relation, without a bound on the
number of words. The bound that the scanner is given is enough. A sentence or an error that has been
found stays the same when more bytes follow; only what is still incomplete depends on them.
-/

namespace RouterApi
namespace Wire

/-- The outcome of a scan with a word before the words of the sentence. -/
def prepend
    (word : Text)
    (outcome : Except Error Scan) : Except Error Scan :=
  outcome.map (Option.map fun (words, rest) => (word :: words, rest))

/-- How a buffer is scanned: word after word, up to a word of length zero, as long as its bytes are
there and each word can be decoded. -/
inductive Scans (encoding : Value) : Bytes → Except Error Scan → Prop
  | reserved {buffer byte}
      (read : LengthPrefix.read? buffer = .error byte) :
      Scans encoding buffer (.error (.framing (.reservedByte byte)))
  | starved {buffer}
      (read : LengthPrefix.read? buffer = .ok none) :
      Scans encoding buffer (.ok none)
  | ended {buffer rest}
      (read : LengthPrefix.read? buffer = .ok (some (0, rest))) :
      Scans encoding buffer (.ok (some ([], rest)))
  | cut {buffer length rest}
      (read : LengthPrefix.read? buffer = .ok (some (length + 1, rest)))
      (short : rest.length < length + 1) :
      Scans encoding buffer (.ok none)
  | undecodable {buffer length rest error}
      (read : LengthPrefix.read? buffer = .ok (some (length + 1, rest)))
      (whole : length + 1 ≤ rest.length)
      (failed : Encoding.decode encoding (rest.take (length + 1)) = .error error) :
      Scans encoding buffer (.error error)
  | word {buffer length rest word outcome}
      (read : LengthPrefix.read? buffer = .ok (some (length + 1, rest)))
      (whole : length + 1 ≤ rest.length)
      (decoded : Encoding.decode encoding (rest.take (length + 1)) = .ok word)
      (later : Scans encoding (rest.drop (length + 1)) outcome) :
      Scans encoding buffer (prepend word outcome)

variable {encoding : Value} {buffer rest : Bytes} {words : List Text} {error : Error}
  {outcome : Except Error Scan}

/-- Each word takes at least one byte, so a unit of fuel for each byte is enough. -/
theorem scans_scanWords
    (encoding : Value)
    {fuel : Nat}
    (enough : buffer.length < fuel) :
    Scans encoding buffer (scanWords encoding fuel buffer) := by
  induction fuel generalizing buffer with
  | zero => contradiction
  | succ fuel inductionHypothesis =>
      unfold scanWords
      cases read : LengthPrefix.read? buffer with
      | error byte => exact .reserved read
      | ok found =>
          match found with
          | none => exact .starved read
          | some (0, rest) => exact .ended read
          | some (length + 1, rest) =>
              have shorter := LengthPrefix.length_read?_lt read
              simp only [List.splitAt_eq]
              split
              · rename_i size
                rw [List.length_take] at size
                have enoughLater : (rest.drop (length + 1)).length < fuel := by
                  rw [List.length_drop]
                  omega
                have later := inductionHypothesis enoughLater
                cases decoded : Encoding.decode encoding (rest.take (length + 1)) with
                | error error => exact .undecodable read (by omega) decoded
                | ok word =>
                    have scanned := Scans.word read (by omega) decoded later
                    cases outcome : scanWords encoding fuel (rest.drop (length + 1)) with
                    | error error =>
                        rw [outcome] at scanned
                        exact scanned
                    | ok scan =>
                        rw [outcome] at scanned
                        exact scanned
              · rename_i size
                rw [List.length_take] at size
                exact .cut read (by omega)

theorem scans_scanSentence
    (encoding : Value)
    (buffer : Bytes) :
    Scans encoding buffer (scanSentence encoding buffer) :=
  scans_scanWords encoding (Nat.lt_succ_self _)

/-- The outcome of a scan does not depend on fuel beyond the number of bytes. -/
theorem Scans.scanWords_eq
    {fuel : Nat}
    (scans : Scans encoding buffer outcome)
    (enough : buffer.length < fuel) :
    scanWords encoding fuel buffer = outcome := by
  induction scans generalizing fuel with
  | reserved read | starved read | ended read =>
      cases fuel with
      | zero => contradiction
      | succ fuel => simp [scanWords, read]
  | @cut buffer length rest read short =>
      cases fuel with
      | zero => contradiction
      | succ fuel =>
          have size : (rest.take (length + 1)).length ≠ length + 1 := by
            rw [List.length_take]
            omega
          simp only [scanWords, read, List.splitAt_eq]
          rw [if_neg size]
  | undecodable read whole failed =>
      cases fuel with
      | zero => contradiction
      | succ fuel => simp [scanWords, read, failed, List.length_take_of_le whole]
  | @word buffer length rest word outcome read whole decoded later inductionHypothesis =>
      cases fuel with
      | zero => contradiction
      | succ fuel =>
          have shorter := LengthPrefix.length_read?_lt read
          have enoughLater : (rest.drop (length + 1)).length < fuel := by
            rw [List.length_drop]
            omega
          simp only [scanWords, read, List.splitAt_eq, List.length_take_of_le whole, if_true,
            decoded, inductionHypothesis enoughLater]
          cases outcome with
          | error error => rfl
          | ok scan => rfl

theorem scanSentence_eq_iff :
    scanSentence encoding buffer = outcome ↔ Scans encoding buffer outcome := by
  constructor
  · rintro rfl
    exact scans_scanSentence encoding buffer
  · intro scans
    exact scans.scanWords_eq (Nat.lt_succ_self _)

/-! ## More bytes -/

/-- The outcome of a scan with more bytes after those that no sentence has been made of. -/
def extend
    (more : Bytes)
    (outcome : Except Error Scan) : Except Error Scan :=
  outcome.map (Option.map fun (words, rest) => (words, rest ++ more))

theorem extend_prepend
    (more : Bytes)
    (word : Text)
    (outcome : Except Error Scan) :
    extend more (prepend word outcome) = prepend word (extend more outcome) := by
  match outcome with
  | .error error => rfl
  | .ok none => rfl
  | .ok (some (words, rest)) => rfl

/-- What has been found in a buffer is found as well when more bytes follow. -/
theorem Scans.append
    (scans : Scans encoding buffer outcome)
    (found : outcome ≠ .ok none)
    (more : Bytes) :
    Scans encoding (buffer ++ more) (extend more outcome) := by
  induction scans with
  | reserved read => exact .reserved (LengthPrefix.read?_append_of_error read more)
  | starved | cut => exact absurd rfl found
  | ended read => exact .ended (LengthPrefix.read?_append read more)
  | undecodable read whole failed =>
      refine .undecodable (LengthPrefix.read?_append read more) ?_ ?_
      · rw [List.length_append]
        omega
      · rwa [List.take_append_of_le_length whole]
  | @word buffer length rest word outcome read whole decoded later inductionHypothesis =>
      have foundLater : outcome ≠ .ok none := by
        rintro rfl
        exact found rfl
      rw [extend_prepend]
      refine .word (LengthPrefix.read?_append read more) ?_ ?_ ?_
      · rw [List.length_append]
        omega
      · rwa [List.take_append_of_le_length whole]
      · rw [List.drop_append_of_le_length whole]
        exact inductionHypothesis foundLater

/-- Words in a known character set can only fail by a malformed length prefix. -/
theorem Scans.exists_reserved
    {charset : Charset}
    (isKnown : Encoding.charset encoding = .ok charset)
    (scans : Scans encoding buffer outcome)
    (failed : outcome = .error error) :
    ∃ byte, error = .framing (.reservedByte byte) := by
  induction scans with
  | @reserved buffer byte =>
      cases failed
      exact ⟨byte, rfl⟩
  | starved | ended | cut => cases failed
  | undecodable read whole malformed =>
      simp only [Encoding.decode, isKnown] at malformed
      cases malformed
  | @word buffer length rest word outcome read whole decoded later inductionHypothesis =>
      cases outcome with
      | error reason =>
          cases failed
          exact inductionHypothesis rfl
      | ok scan => cases failed

/-- A sentence takes at least one byte. -/
theorem Scans.length_lt
    (scans : Scans encoding buffer outcome)
    (found : outcome = .ok (some (words, rest))) :
    rest.length < buffer.length := by
  induction scans generalizing words with
  | reserved | starved | cut | undecodable => cases found
  | ended read =>
      cases found
      exact LengthPrefix.length_read?_lt read
  | @word buffer length after word outcome read whole decoded later inductionHypothesis =>
      match outcome with
      | .error reason => cases found
      | .ok none => cases found
      | .ok (some (others, left)) =>
          cases found
          have shorter := LengthPrefix.length_read?_lt read
          have shorterLater := inductionHypothesis rfl
          rw [List.length_drop] at shorterLater
          omega

/-! ## The next sentence of a decoder -/

namespace Decoder

variable {decoder after : Decoder}

theorem next_eq_error_iff :
    decoder.next = .error error ↔ Scans decoder.encoding decoder.buffer (.error error) := by
  rw [← scanSentence_eq_iff, next]
  split
  · simp_all
  · simp_all

theorem next_eq_none_iff :
    decoder.next = .ok none ↔ Scans decoder.encoding decoder.buffer (.ok none) := by
  rw [← scanSentence_eq_iff, next]
  split
  · simp_all
  · simp_all

theorem next_eq_some_iff :
    decoder.next = .ok (some (words, after)) ↔
      after.encoding = decoder.encoding ∧
        Scans decoder.encoding decoder.buffer (.ok (some (words, after.buffer))) := by
  obtain ⟨afterEncoding, rest⟩ := after
  rw [← scanSentence_eq_iff, next]
  cases scanSentence decoder.encoding decoder.buffer with
  | error reason => simp
  | ok scan =>
      cases scan with
      | none => simp
      | some found =>
          simp only [Option.map_some, Except.ok.injEq, Option.some.injEq, mk.injEq, Prod.ext_iff]
          constructor
          · rintro ⟨rfl, rfl, rfl⟩
            exact ⟨rfl, rfl, rfl⟩
          · rintro ⟨rfl, rfl, rfl⟩
            exact ⟨rfl, rfl, rfl⟩

theorem encoding_next
    (found : decoder.next = .ok (some (words, after))) :
    after.encoding = decoder.encoding :=
  (next_eq_some_iff.mp found).1

theorem length_next_lt
    (found : decoder.next = .ok (some (words, after))) :
    after.buffer.length < decoder.buffer.length :=
  (next_eq_some_iff.mp found).2.length_lt rfl

theorem next_eq_error
    {charset : Charset}
    (isKnown : Encoding.charset decoder.encoding = .ok charset)
    (failed : decoder.next = .error error) :
    ∃ byte, error = .framing (.reservedByte byte) :=
  (next_eq_error_iff.mp failed).exists_reserved isKnown rfl

/-- An error is found as well when more bytes follow. -/
theorem next_feed_of_error
    (failed : decoder.next = .error error)
    (more : Bytes) :
    (decoder.feed more).next = .error error :=
  next_eq_error_iff.mpr ((next_eq_error_iff.mp failed).append (by simp) more)

/-- A sentence is found as well when more bytes follow, which stay in the buffer. -/
theorem next_feed_of_some
    (found : decoder.next = .ok (some (words, after)))
    (more : Bytes) :
    (decoder.feed more).next = .ok (some (words, after.feed more)) := by
  obtain ⟨encoding_eq, scans⟩ := next_eq_some_iff.mp found
  exact next_eq_some_iff.mpr ⟨encoding_eq, scans.append (by simp) more⟩

end Decoder
end Wire
end RouterApi
