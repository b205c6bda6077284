import RouterApi.Proofs.Client.Submission
import RouterApi.Proofs.Client.Tags
import RouterApi.Proofs.Wire.Layout

/-!
# Words with minted tags

A minted tag consists of digits, which every character set has. A command that can be encoded can
therefore be encoded with a tag, as long as the tag fits in a word.
-/

namespace RouterApi

/-- The digits of a number are plain. -/
theorem Text.val_lt_of_mem_ofNat
    {point : CodePoint}
    {number : Nat}
    (member : point ∈ Text.ofNat number) :
    point.val < 0x80 := by
  obtain ⟨character, digit, rfl⟩ := List.mem_map.mp member
  have isDigit := Nat.isDigit_of_mem_toDigits (by decide : 0 < 10) (by decide) digit
  simp only [Char.isDigit, Bool.and_eq_true, decide_eq_true_eq, UInt32.le_iff_toNat_le] at isDigit
  have bound : character.toNat ≤ 57 := isDigit.2
  show character.toNat < 0x80
  omega

/-- Plain text is written as one byte for each code point, in every character set. -/
theorem Charset.exists_encode?_of_plain
    (charset : Charset)
    {content : Text}
    (plain : ∀ point ∈ content, point.val < 0x80) :
    ∃ bytes, charset.encode? content = some bytes ∧ bytes.length = content.length := by
  induction content with
  | nil => exact ⟨[], rfl, rfl⟩
  | cons point rest inductionHypothesis =>
      obtain ⟨first, others⟩ := List.forall_mem_cons.mp plain
      obtain ⟨bytes, written, length_eq⟩ := inductionHypothesis others
      have encoded : charset.encodePoint? point = some [UInt8.ofNat point.val] := by
        have ordinary : point.isSurrogate = false := by
          rw [CodePoint.isSurrogate, Bool.and_eq_false_iff, decide_eq_false_iff_not]
          exact .inl (by omega)
        have below : point.val < 0x100 := by omega
        cases charset with
        | utf8 => simp [encodePoint?, encodeCharacter?, ordinary, Utf8.encodePoint, first]
        | ascii => simp [encodePoint?, encodeCharacter?, first]
        | latin1 => simp [encodePoint?, encodeCharacter?, below]
      refine ⟨UInt8.ofNat point.val :: bytes, ?_, ?_⟩
      · rw [encode?_cons, encoded, written]
        rfl
      · rw [List.length_cons, List.length_cons, length_eq]

namespace Wire

variable {encoding : Value} {charset : Charset} {words : List Word} {data : Bytes}

/-- A further word that can be written. -/
theorem exists_encodeSentence_append
    {word : Word}
    {content lead : Bytes}
    (encoded : encodeSentence encoding words = .ok data)
    (nonempty : isEmpty word = false)
    (written : wordBytes encoding word = .ok content)
    (fits : LengthPrefix.encode content.length = .ok lead) :
    ∃ longer, encodeSentence encoding (words ++ [word]) = .ok longer := by
  induction words generalizing data with
  | nil =>
      exact ⟨_, encodeSentence_cons_eq_ok_iff.mpr
        ⟨nonempty, content, lead, [0], written, fits, rfl, rfl⟩⟩
  | cons first others inductionHypothesis =>
      obtain ⟨firstNonempty, firstContent, firstLead, later, firstWritten, firstFits, rest, -⟩ :=
        encodeSentence_cons_eq_ok_iff.mp encoded
      obtain ⟨longer, restEncoded⟩ := inductionHypothesis rest
      exact ⟨_, encodeSentence_cons_eq_ok_iff.mpr
        ⟨firstNonempty, firstContent, firstLead, longer, firstWritten, firstFits, restEncoded,
          rfl⟩⟩

end Wire

/-- A command that can be encoded can be encoded with the tag that is minted next, if that fits in
a word. -/
theorem Client.exists_encodeSentence_tagged
    {client : Client}
    {encoding : Value}
    {charset : Charset}
    {words : List Word}
    {data : Bytes}
    (isKnown : Encoding.charset encoding = .ok charset)
    (encoded : Wire.encodeSentence encoding words = .ok data)
    (fits : (Word.ofTag (.text client.nextTag)).length ≤ LengthPrefix.maximum) :
    ∃ longer, Wire.encodeSentence encoding (client.tagged words) = .ok longer := by
  have plain : ∀ point ∈ Word.ofTag (.text client.nextTag), point.val < 0x80 := by
    intro point member
    rcases List.mem_append.mp member with mark | digit
    · have marks : Word.tagMark.all (fun point => decide (point.val < 0x80)) = true := by decide
      exact of_decide_eq_true (List.all_eq_true.mp marks point mark)
    · exact Text.val_lt_of_mem_ofNat digit
  obtain ⟨bytes, written, length_eq⟩ := charset.exists_encode?_of_plain plain
  obtain ⟨lead, prefixed⟩ := LengthPrefix.exists_encode (length_eq ▸ fits)
  refine Wire.exists_encodeSentence_append encoded rfl ?_ prefixed
  simp [Wire.wordBytes, Encoding.encode, isKnown, written]

end RouterApi
