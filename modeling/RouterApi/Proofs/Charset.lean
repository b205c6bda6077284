import RouterApi.Charset

/-!
# Escaped bytes

Bytes that are no character are read as surrogates, each of which stands for one byte. Reading
splits any bytes into characters and escaped bytes, from which they are written back as they were.
Text that is written without surrogates is read back as it was; text with surrogates is read back if
and only if it is what some bytes are read as.
-/

namespace RouterApi

/-! ## Surrogates and escapes -/

namespace CodePoint

theorem isSurrogate_eq_false_iff
    {point : CodePoint} :
    point.isSurrogate = false ↔ ¬ (0xD800 ≤ point.val ∧ point.val ≤ 0xDFFF) := by
  simp [isSurrogate]

/-- No character is a surrogate. -/
theorem isSurrogate_ofChar (character : Char) : (ofChar character).isSurrogate = false := by
  rw [isSurrogate_eq_false_iff]
  have valid := character.valid
  simp only [UInt32.isValidChar, Nat.isValidChar] at valid
  simp only [ofChar, Char.toNat]
  omega

theorem isSurrogate_of_mem_literal
    {point : CodePoint}
    {content : String}
    (member : point ∈ literal content) :
    point.isSurrogate = false := by
  obtain ⟨character, -, rfl⟩ := List.mem_map.mp member
  exact isSurrogate_ofChar character

theorem val_ofByte (byte : UInt8) : (ofByte byte).val = byte.toNat := rfl

theorem val_escapeOf (byte : UInt8) : (escapeOf byte).val = 0xDC00 + byte.toNat := rfl

theorem isSurrogate_escapeOf (byte : UInt8) : (escapeOf byte).isSurrogate = true := by
  have bound := byte.toNat_lt
  rw [← Bool.not_eq_false, isSurrogate_eq_false_iff, val_escapeOf]
  omega

/-- An escape stands for its byte. -/
theorem escapedByte?_escapeOf
    {byte : UInt8}
    (high : 0x80 ≤ byte.toNat) :
    (escapeOf byte).escapedByte? = some byte := by
  have bound := byte.toNat_lt
  rw [escapedByte?, val_escapeOf, if_pos (by omega), Nat.add_sub_cancel_left, UInt8.ofNat_toNat]

/-- Only surrogates are escapes. -/
theorem escapedByte?_of_not_isSurrogate
    {point : CodePoint}
    (plain : point.isSurrogate = false) :
    point.escapedByte? = none := by
  rw [isSurrogate_eq_false_iff] at plain
  rw [escapedByte?, if_neg (by omega)]

end CodePoint

/-! ## UTF-8 -/

namespace Utf8

variable {point : CodePoint} {lead : UInt8} {following : Bytes} {value count : Nat}

theorem toNat_ofNat_of_lt (bound : value < 0x100) : (UInt8.ofNat value).toNat = value :=
  UInt8.toNat_ofNat_of_lt' bound

theorem eq_ofNat_of_toNat_eq
    (byte : UInt8)
    (toNat_eq : byte.toNat = value) :
    byte = UInt8.ofNat value := by
  rw [← toNat_eq, UInt8.ofNat_toNat]

/-- A continuation byte is 0x80 plus its payload. -/
theorem continuation?_eq_some_iff
    {byte : UInt8}
    {payload : Nat} :
    continuation? byte = some payload ↔ payload < 0x40 ∧ byte.toNat = 0x80 + payload := by
  unfold continuation?
  constructor
  · intro found
    split at found
    · have payload_eq := Option.some.inj found
      omega
    · contradiction
  · rintro ⟨bound, toNat_eq⟩
    rw [if_pos (by omega)]
    exact congrArg some (by omega)

/-- The value that the bytes of a character stand for must not be too small for them, no surrogate,
and within the range of code points. -/
theorem wellFormed_eq_some_iff
    {least size : Nat} :
    (if least ≤ value ∧ ¬ (0xD800 ≤ value ∧ value ≤ 0xDFFF) then
      if bound : value < 0x110000 then some ((⟨value, bound⟩ : CodePoint), size) else none
    else none) = some (point, count) ↔
      least ≤ value ∧ point.isSurrogate = false ∧ point.val = value ∧ count = size := by
  rw [CodePoint.isSurrogate_eq_false_iff]
  constructor
  · intro found
    split at found
    · rename_i fits
      split at found
      · obtain ⟨rfl, rfl⟩ := Prod.mk.inj (Option.some.inj found)
        exact ⟨fits.1, fits.2, rfl, rfl⟩
      · contradiction
    · contradiction
  · rintro ⟨fits, plain, rfl, rfl⟩
    rw [if_pos ⟨fits, plain⟩, dif_pos point.isLt]

/-- A character that is read is no surrogate, and the bytes read are its bytes. -/
theorem encodePoint_of_character?
    (found : character? lead following = some (point, count)) :
    point.isSurrogate = false ∧ encodePoint point = lead :: following.take count := by
  unfold character? at found
  simp only at found
  split at found
  · obtain ⟨-, plain, value_eq, rfl⟩ := wellFormed_eq_some_iff.mp found
    refine ⟨plain, ?_⟩
    unfold encodePoint
    simp only
    rw [if_pos (by omega), ← eq_ofNat_of_toNat_eq lead value_eq.symm]
    rfl
  split at found
  · contradiction
  split at found
  · split at found
    · rename_i second rest
      simp only [Option.bind_eq_bind, Option.bind_eq_some_iff, continuation?_eq_some_iff,
        wellFormed_eq_some_iff] at found
      obtain ⟨low, ⟨lowBound, second_eq⟩, least, plain, value_eq, rfl⟩ := found
      refine ⟨plain, ?_⟩
      unfold encodePoint
      simp only
      rw [if_neg (by omega), if_pos (by omega), ← eq_ofNat_of_toNat_eq lead (by omega),
        ← eq_ofNat_of_toNat_eq second (by omega)]
      rfl
    · contradiction
  split at found
  · split at found
    · rename_i second third rest
      simp only [Option.bind_eq_bind, Option.bind_eq_some_iff, continuation?_eq_some_iff,
        wellFormed_eq_some_iff] at found
      obtain ⟨middle, ⟨middleBound, second_eq⟩, low, ⟨lowBound, third_eq⟩, least, plain, value_eq,
        rfl⟩ := found
      refine ⟨plain, ?_⟩
      unfold encodePoint
      simp only
      rw [if_neg (by omega), if_neg (by omega), if_pos (by omega),
        ← eq_ofNat_of_toNat_eq lead (by omega),
        ← eq_ofNat_of_toNat_eq second (by omega),
        ← eq_ofNat_of_toNat_eq third (by omega)]
      rfl
    · contradiction
  split at found
  · split at found
    · rename_i second third fourth rest
      simp only [Option.bind_eq_bind, Option.bind_eq_some_iff, continuation?_eq_some_iff,
        wellFormed_eq_some_iff] at found
      obtain ⟨upper, ⟨upperBound, second_eq⟩, middle, ⟨middleBound, third_eq⟩, low,
        ⟨lowBound, fourth_eq⟩, least, plain, value_eq, rfl⟩ := found
      refine ⟨plain, ?_⟩
      unfold encodePoint
      simp only
      rw [if_neg (by omega), if_neg (by omega), if_neg (by omega),
        ← eq_ofNat_of_toNat_eq lead (by omega),
        ← eq_ofNat_of_toNat_eq second (by omega),
        ← eq_ofNat_of_toNat_eq third (by omega),
        ← eq_ofNat_of_toNat_eq fourth (by omega)]
      rfl
    · contradiction
  · contradiction

/-- The bytes of a code point that is no surrogate are read as that code point, whatever follows. -/
theorem character?_of_encodePoint
    (plain : point.isSurrogate = false)
    (more : Bytes) :
    ∃ lead tail, encodePoint point = lead :: tail ∧
      character? lead (tail ++ more) = some (point, tail.length) := by
  have payload (shift : Nat) :
      continuation? (UInt8.ofNat (0x80 + point.val / shift % 0x40)) =
        some (point.val / shift % 0x40) := by
    rw [continuation?_eq_some_iff, toNat_ofNat_of_lt (by omega)]
    omega
  have bound := point.isLt
  unfold encodePoint
  simp only
  split
  · rename_i small
    refine ⟨_, _, rfl, ?_⟩
    unfold character?
    simp only [toNat_ofNat_of_lt (show point.val < 0x100 by omega)]
    rw [if_pos small, wellFormed_eq_some_iff]
    exact ⟨Nat.zero_le _, plain, rfl, rfl⟩
  split
  · refine ⟨_, _, rfl, ?_⟩
    unfold character?
    simp only [List.cons_append, List.nil_append, payload, Option.bind_eq_bind, Option.bind_some,
      toNat_ofNat_of_lt (show 0xC0 + point.val / 0x40 < 0x100 by omega)]
    rw [if_neg (by omega), if_neg (by omega), if_pos (by omega), wellFormed_eq_some_iff]
    exact ⟨by omega, plain, by omega, rfl⟩
  split
  · refine ⟨_, _, rfl, ?_⟩
    unfold character?
    simp only [List.cons_append, List.nil_append, payload, Option.bind_eq_bind, Option.bind_some,
      toNat_ofNat_of_lt (show 0xE0 + point.val / 0x1000 < 0x100 by omega)]
    rw [if_neg (by omega), if_neg (by omega), if_neg (by omega), if_pos (by omega),
      wellFormed_eq_some_iff]
    exact ⟨by omega, plain, by omega, rfl⟩
  · refine ⟨_, _, rfl, ?_⟩
    unfold character?
    simp only [List.cons_append, List.nil_append, payload, Option.bind_eq_bind, Option.bind_some,
      toNat_ofNat_of_lt (show 0xF0 + point.val / 0x40000 < 0x100 by omega)]
    rw [if_neg (by omega), if_neg (by omega), if_neg (by omega), if_neg (by omega),
      if_pos (by omega), wellFormed_eq_some_iff]
    exact ⟨by omega, plain, by omega, rfl⟩

/-- A byte that starts no character is not below 0x80. -/
theorem le_of_character?_eq_none
    (notCharacter : character? lead following = none) :
    0x80 ≤ lead.toNat := by
  refine Nat.le_of_not_lt fun low => ?_
  unfold character? at notCharacter
  simp only at notCharacter
  rw [if_pos (by omega), if_pos (by omega), dif_pos (by omega)] at notCharacter
  contradiction

end Utf8

/-! ## Texts -/

namespace Charset

variable {charset : Charset} {point : CodePoint} {bytes rest : Bytes} {content : Text}

/-- A code point that is no surrogate is only written as a character. -/
theorem encodeCharacter?_of_encodePoint?
    (plain : point.isSurrogate = false)
    (written : charset.encodePoint? point = some bytes) :
    charset.encodeCharacter? point = some bytes := by
  unfold encodePoint? at written
  split at written
  · rename_i found
    rwa [← Option.some.inj written]
  · rw [CodePoint.escapedByte?_of_not_isSurrogate plain] at written
    contradiction

/-- What a character is written as is read as that character, whatever follows. -/
theorem decodeAt_of_encodeCharacter?
    (written : charset.encodeCharacter? point = some bytes)
    (more : Bytes) :
    ∃ byte following, bytes = byte :: following ∧
      charset.decodeAt byte (following ++ more) = (point, following.length) := by
  cases charset with
  | utf8 =>
      simp only [encodeCharacter?] at written
      split at written
      · contradiction
      · rename_i plain
        obtain ⟨lead, tail, bytes_eq, read⟩ :=
          Utf8.character?_of_encodePoint (Bool.not_eq_true _ ▸ plain) more
        refine ⟨lead, tail, ?_, ?_⟩
        · rw [← Option.some.inj written, bytes_eq]
        · rw [decodeAt, read, Option.getD_some]
  | ascii =>
      simp only [encodeCharacter?] at written
      split at written
      · rename_i small
        refine ⟨_, [], (Option.some.inj written).symm, ?_⟩
        have toNat_eq := Utf8.toNat_ofNat_of_lt (show point.val < 0x100 by omega)
        simp only [decodeAt, CodePoint.ofByte, toNat_eq]
        rw [if_pos small]
        rfl
      · contradiction
  | latin1 =>
      simp only [encodeCharacter?] at written
      split at written
      · rename_i small
        refine ⟨_, [], (Option.some.inj written).symm, ?_⟩
        simp only [decodeAt, CodePoint.ofByte, Utf8.toNat_ofNat_of_lt small]
        rfl
      · contradiction

/-- The code point read at a byte is written as that byte and those after it that belong to the same
character. -/
theorem encodePoint?_decodeAt
    (charset : Charset)
    (byte : UInt8)
    (following : Bytes) :
    charset.encodePoint? (charset.decodeAt byte following).1 =
      some (byte :: following.take (charset.decodeAt byte following).2) := by
  cases charset with
  | utf8 =>
      simp only [decodeAt]
      cases read : Utf8.character? byte following with
      | none =>
          have high := Utf8.le_of_character?_eq_none read
          simp only [Option.getD_none, encodePoint?, encodeCharacter?]
          rw [if_pos (CodePoint.isSurrogate_escapeOf byte), CodePoint.escapedByte?_escapeOf high]
          rfl
      | some character =>
          obtain ⟨point, count⟩ := character
          obtain ⟨plain, bytes_eq⟩ := Utf8.encodePoint_of_character? read
          simp only [Option.getD_some, encodePoint?, encodeCharacter?, plain, bytes_eq]
          rfl
  | ascii =>
      simp only [decodeAt]
      by_cases small : byte.toNat < 0x80
      · rw [if_pos small]
        simp only [encodePoint?, encodeCharacter?]
        rw [CodePoint.val_ofByte, if_pos small, UInt8.ofNat_toNat]
        rfl
      · have bound := byte.toNat_lt
        rw [if_neg small]
        simp only [encodePoint?, encodeCharacter?]
        rw [if_neg (by rw [CodePoint.val_escapeOf]; omega),
          CodePoint.escapedByte?_escapeOf (by omega)]
        rfl
  | latin1 =>
      change encodePoint? .latin1 (CodePoint.ofByte byte) = some [byte]
      simp only [encodePoint?, encodeCharacter?]
      rw [CodePoint.val_ofByte, if_pos byte.toNat_lt, UInt8.ofNat_toNat]

/-- Reading goes on after the bytes that belong to a character that has been read. -/
theorem decodeOnto_eq
    (charset : Charset)
    (owed : Nat)
    (read : Text)
    (bytes : Bytes) :
    charset.decodeOnto owed read bytes = read.reverse ++ charset.decode (bytes.drop owed) := by
  unfold decode
  induction bytes generalizing owed read with
  | nil => simp [decodeOnto]
  | cons byte rest inductionHypothesis =>
      cases owed with
      | succ still => exact inductionHypothesis still read
      | zero =>
          simp only [decodeOnto, List.drop_zero]
          rw [inductionHypothesis, inductionHypothesis _ [_]]
          simp

/-- Bytes are read one character after the other. -/
theorem decode_cons
    (charset : Charset)
    (byte : UInt8)
    (rest : Bytes) :
    charset.decode (byte :: rest) =
      (charset.decodeAt byte rest).1 :: charset.decode (rest.drop (charset.decodeAt byte rest).2) :=
  decodeOnto_eq charset _ [_] rest

/-- A text is written one code point after the other. -/
theorem encode?_cons
    (charset : Charset)
    (point : CodePoint)
    (rest : Text) :
    charset.encode? (point :: rest) =
      (charset.encodePoint? point).bind fun first =>
        (charset.encode? rest).map (first ++ ·) := by
  unfold encode?
  cases written : charset.encodePoint? point with
  | none => simp [written]
  | some first => 
      simp only [List.all_cons, written, Option.isSome_some, Bool.true_and, List.flatMap_cons,
        Option.getD_some, Option.bind_some]
      split
      · rfl
      · rfl

/-- Every text without surrogates has a form in UTF-8. -/
theorem encode?_utf8_of_plain
    (plain : ∀ point ∈ content, point.isSurrogate = false) :
    utf8.encode? content = some (content.flatMap Utf8.encodePoint) := by
  induction content with
  | nil => rfl
  | cons point rest inductionHypothesis =>
      obtain ⟨first, others⟩ := List.forall_mem_cons.mp plain
      have own : utf8.encodePoint? point = some (Utf8.encodePoint point) := by
        simp [encodePoint?, encodeCharacter?, first]
      rw [encode?_cons, own, inductionHypothesis others]
      rfl

/-- Each code point takes at least one byte. -/
theorem ne_nil_of_encodePoint?
    (written : charset.encodePoint? point = some bytes) :
    bytes ≠ [] := by
  unfold encodePoint? at written
  split at written
  · rename_i found
    obtain ⟨byte, following, rfl, -⟩ := decodeAt_of_encodeCharacter? found []
    cases written
    exact List.cons_ne_nil _ _
  · obtain ⟨byte, -, rfl⟩ := Option.map_eq_some_iff.mp written
    exact List.cons_ne_nil _ _

/-- Only the empty text is written as no bytes. -/
theorem eq_nil_iff_of_encode?
    (written : charset.encode? content = some bytes) :
    content = [] ↔ bytes = [] := by
  cases content with
  | nil =>
      cases written
      simp
  | cons point rest =>
      rw [encode?_cons, Option.bind_eq_some_iff] at written
      obtain ⟨first, first_eq, written⟩ := written
      obtain ⟨later, -, rfl⟩ := Option.map_eq_some_iff.mp written
      simp [ne_nil_of_encodePoint? first_eq]

/-- Every byte survives decoding. -/
theorem encode?_decode
    (charset : Charset)
    (bytes : Bytes) :
    charset.encode? (charset.decode bytes) = some bytes := by
  induction size : bytes.length using Nat.strongRecOn generalizing bytes with
  | ind total inductionHypothesis =>
      cases bytes with
      | nil => rfl
      | cons byte rest =>
          have shorter : (rest.drop (charset.decodeAt byte rest).2).length < total := by
            rw [← size, List.length_drop, List.length_cons]
            omega
          have later := inductionHypothesis _ shorter _ rfl
          rw [decode_cons, encode?_cons, encodePoint?_decodeAt, later]
          simp

/-- A text without surrogates is read as it was written. -/
theorem decode_of_encode?
    (plain : ∀ point ∈ content, point.isSurrogate = false)
    (written : charset.encode? content = some bytes) :
    charset.decode bytes = content := by
  induction content generalizing bytes with
  | nil =>
      cases written
      rfl
  | cons point rest inductionHypothesis =>
      obtain ⟨first, others⟩ := List.forall_mem_cons.mp plain
      rw [encode?_cons, Option.bind_eq_some_iff] at written
      obtain ⟨own, own_eq, written⟩ := written
      obtain ⟨later, later_eq, rfl⟩ := Option.map_eq_some_iff.mp written
      obtain ⟨byte, following, rfl, read⟩ :=
        decodeAt_of_encodeCharacter? (encodeCharacter?_of_encodePoint? first own_eq) later
      rw [List.cons_append, decode_cons, read, List.drop_left, inductionHypothesis others later_eq]

/-- A text is read as it was written if and only if it is what some bytes are read as. -/
theorem decode_eq_iff_of_encode?
    (written : charset.encode? content = some bytes) :
    charset.decode bytes = content ↔ ∃ original, content = charset.decode original := by
  constructor
  · intro read
    exact ⟨bytes, read.symm⟩
  · rintro ⟨original, rfl⟩
    rw [encode?_decode] at written
    rw [Option.some.inj written]

end Charset
end RouterApi
