import RouterApi.Proofs.Wire.LengthPrefix
import RouterApi.Wire.Length

/-!
# The code of lengths

The prefixes that are written make up a code of the lengths up to the maximum. Each of them is read
back wherever it stands in a buffer and whatever is around it, and nothing is read while a part of
it is missing. Its length is never read from fewer bytes, and none of them begins another one.
-/

namespace RouterApi
namespace LengthPrefix

variable {prefixBytes bytes buffer rest : Bytes} {length offset : Nat} {number next : Int}

/-! ## Writing -/

/-- The numbers that are written are lengths. -/
theorem encodeInt_eq_ok_iff :
    encodeInt number = .ok prefixBytes ↔
      ∃ length : Nat, number = length ∧ encode length = .ok prefixBytes := by
  cases number with
  | ofNat length =>
      constructor
      · intro written
        exact ⟨length, rfl, written⟩
      · rintro ⟨_, same, written⟩
        cases same
        exact written
  | negSucc pred =>
      constructor
      · nofun
      · rintro ⟨_, same, -⟩
        cases same

/-- Exactly the lengths up to the maximum are written. -/
theorem exists_encodeInt_iff :
    (∃ prefixBytes, encodeInt number = .ok prefixBytes) ↔ 0 ≤ number ∧ number ≤ maximum := by
  constructor
  · rintro ⟨prefixBytes, written⟩
    obtain ⟨length, rfl, written⟩ := encodeInt_eq_ok_iff.mp written
    have bound := (denotes_of_encode written).1.le_maximum
    exact ⟨Int.natCast_nonneg length, Int.ofNat_le.mpr bound⟩
  · rintro ⟨nonnegative, bound⟩
    obtain ⟨length, rfl⟩ := Int.eq_ofNat_of_zero_le nonnegative
    obtain ⟨prefixBytes, written⟩ := exists_encode (Int.ofNat_le.mp bound)
    exact ⟨prefixBytes, encodeInt_eq_ok_iff.mpr ⟨length, rfl, written⟩⟩

/-! ## Reading -/

/-- Nothing is read of a prefix exactly while some of its bytes are missing. -/
theorem read?_eq_none_iff :
    read? bytes = .ok none ↔ ∃ more length, more ≠ [] ∧ Denotes (bytes ++ more) length := by
  constructor
  · exact exists_denotes_of_read?_eq_none
  · rintro ⟨more, length, nonempty, denotes⟩
    have whole := read?_of_denotes denotes []
    rw [List.append_nil] at whole
    cases read : read? bytes with
    | error byte =>
        rw [read?_append_of_error read more] at whole
        cases whole
    | ok found =>
        match found with
        | none => rfl
        | some (shorter, rest) =>
            rw [read?_append read more] at whole
            simp [nonempty] at whole

/-- A position is read like the front of the bytes from there on. -/
theorem readAt?_eq_none_iff :
    readAt? buffer offset = .ok none ↔ read? (buffer.drop offset) = .ok none := by
  show readAt? buffer (.ofNat offset) = _ ↔ _
  rw [readAt?]
  cases read? (buffer.drop offset) with
  | error byte => simp
  | ok found => simp

/-- A prefix at a position, and the bytes after it, take up the rest of the buffer. -/
theorem Denotes.length_eq_of_drop
    (denotes : Denotes prefixBytes length)
    (split : buffer.drop offset = prefixBytes ++ rest) :
    buffer.length = offset + prefixBytes.length + rest.length := by
  have positive := List.length_pos_iff.mpr denotes.ne_nil
  have sizes := congrArg List.length split
  rw [List.length_drop, List.length_append] at sizes
  omega

/-- What is read at a position is the prefix that starts there, and the position after it. -/
theorem readAt?_eq_some_iff :
    readAt? buffer offset = .ok (some (length, next)) ↔
      ∃ prefixBytes rest, Denotes prefixBytes length ∧ buffer.drop offset = prefixBytes ++ rest ∧
        next = offset + prefixBytes.length := by
  show readAt? buffer (.ofNat offset) = _ ↔ _
  rw [readAt?]
  constructor
  · intro found
    cases read : read? (buffer.drop offset) with
    | error byte => simp [read] at found
    | ok result =>
        match result with
        | none => simp [read] at found
        | some (_, rest) =>
            simp only [read, Option.map_some, Except.ok.injEq, Option.some.injEq,
              Prod.mk.injEq] at found
            obtain ⟨rfl, rfl⟩ := found
            obtain ⟨prefixBytes, denotes, split⟩ := denotes_of_read? read
            have sizes := denotes.length_eq_of_drop split
            exact ⟨prefixBytes, rest, denotes, split, by omega⟩
  · rintro ⟨prefixBytes, rest, denotes, split, rfl⟩
    have sizes := denotes.length_eq_of_drop split
    have next_eq : (buffer.length : Int) - rest.length = offset + prefixBytes.length := by omega
    rw [split, read?_of_denotes denotes rest, ← next_eq]
    rfl

end LengthPrefix

namespace Wire

variable {prefixBytes buffer : Bytes} {length offset : Nat} {number : Int} {position : Value}
  {found : Option (Nat × Int)}

/-! ## Lengths and positions as values -/

theorem encodeLength_int_eq_ok_iff :
    encodeLength (.int number) = .ok prefixBytes ↔
      LengthPrefix.encodeInt number = .ok prefixBytes := by
  show (LengthPrefix.encodeInt number).mapError Error.badLength = _ ↔ _
  cases LengthPrefix.encodeInt number with
  | error fault => simp [Except.mapError]
  | ok written => simp [Except.mapError]

/-- A number that is no length is an error about a value. -/
theorem kind_of_encodeLength_eq_error
    {error : Error}
    (failed : encodeLength (.int number) = .error error) :
    error.kind = .value := by
  change (LengthPrefix.encodeInt number).mapError Error.badLength = _ at failed
  cases written : LengthPrefix.encodeInt number with
  | error fault =>
      rw [written] at failed
      cases failed
      rfl
  | ok written =>
      rw [written] at failed
      cases failed

/-- A position is a number. -/
theorem fraction?_of_asIndex (isPosition : position.asIndex = .ok (offset : Int)) :
    position.fraction? = some ((offset : Int), 1) := by
  unfold Value.asIndex at isPosition
  cases position with
  | int number =>
      simp only [Value.integer?] at isPosition
      split at isPosition
      · cases isPosition
        rfl
      · cases isPosition
  | bool truth =>
      cases truth <;> cases isPosition <;> rfl
  | null | float | text | bytes | duration | time | version | pair => cases isPosition

/-- What is found at a position is what is read there. -/
theorem decodeLength_eq_ok_iff (isPosition : position.asIndex = .ok (offset : Int)) :
    decodeLength buffer position = .ok found ↔
      LengthPrefix.readAt? buffer offset = .ok found := by
  have beyond_iff : isBeyond buffer position = true ↔ buffer.length ≤ offset := by
    unfold isBeyond
    rw [fraction?_of_asIndex isPosition]
    simp
  unfold decodeLength
  by_cases beyond : buffer.length ≤ offset
  · have nothing : LengthPrefix.readAt? buffer offset = .ok none := by
      rw [LengthPrefix.readAt?_eq_none_iff, List.drop_eq_nil_of_le beyond]
      rfl
    rw [if_pos (beyond_iff.mpr beyond), nothing]
    simp
  · rw [if_neg (mt beyond_iff.mp beyond), isPosition]
    cases read : LengthPrefix.readAt? buffer offset with
    | error reason => cases reason <;> simp [read]
    | ok result => simp [read]

/-! ## Code words -/

/-- What is found at a position of a buffer: it is read there, and it is what any value that is this
position leads to. Such a value has 64 bits, which are enough for the buffers in a memory. -/
structure Finds
    (buffer : Bytes)
    (offset : Nat)
    (found : Option (Nat × Int)) : Prop where
  read : LengthPrefix.readAt? buffer offset = .ok found
  decoded : ∀ position : Value,
    position.asIndex = .ok (offset : Int) → decodeLength buffer position = .ok found

theorem finds_of_readAt?
    (read : LengthPrefix.readAt? buffer offset = .ok found) :
    Finds buffer offset found :=
  ⟨read, fun _ isPosition => (decodeLength_eq_ok_iff isPosition).mpr read⟩

/-- How a prefix is told from the bytes around it, and from the other prefixes. -/
structure IsCodeWord
    (prefixBytes : Bytes)
    (length : Nat) : Prop where
  /-- Its length is found at the position of its first byte, whatever is around it. -/
  readBack : ∀ before after : Bytes,
    Finds (before ++ prefixBytes ++ after) before.length
      (some (length, before.length + prefixBytes.length))
  /-- Nothing is found there if the buffer ends before the prefix does. -/
  incomplete : ∀ before part missing : Bytes,
    part ++ missing = prefixBytes → missing ≠ [] →
      Finds (before ++ part) before.length none
  /-- Its length is not found in fewer bytes, wherever these stand. -/
  shortest : ∀ (buffer : Bytes) (offset : Nat) (position : Value) (next : Int),
    position.asIndex = .ok (offset : Int) →
      decodeLength buffer position = .ok (some (length, next)) →
        offset + prefixBytes.length ≤ next ∧ next ≤ buffer.length
  /-- It does not begin the prefix of another number. -/
  separate : ∀ (other : Bytes) (number : Int),
    encodeLength (.int number) = .ok other → prefixBytes <+: other →
      prefixBytes = other ∧ number = length

/-- What is written for a length is a code word. -/
theorem isCodeWord_of_encode
    (written : LengthPrefix.encode length = .ok prefixBytes) :
    IsCodeWord prefixBytes length where
  readBack before after := by
    refine finds_of_readAt? (LengthPrefix.readAt?_eq_some_iff.mpr
      ⟨prefixBytes, after, (LengthPrefix.denotes_of_encode written).1, ?_, rfl⟩)
    rw [List.append_assoc, List.drop_left]
  incomplete before part missing whole nonempty := by
    refine finds_of_readAt? (LengthPrefix.readAt?_eq_none_iff.mpr ?_)
    rw [List.drop_left]
    refine LengthPrefix.read?_eq_none_iff.mpr ⟨missing, length, nonempty, ?_⟩
    rw [whole]
    exact (LengthPrefix.denotes_of_encode written).1
  shortest buffer offset position next isPosition decoded := by
    rw [decodeLength_eq_ok_iff isPosition, LengthPrefix.readAt?_eq_some_iff] at decoded
    obtain ⟨read, rest, denotes, split, rfl⟩ := decoded
    have least := (LengthPrefix.isMinimal_of_encode written).shortest denotes
    have sizes := denotes.length_eq_of_drop split
    omega
  separate other number encoded begins := by
    obtain ⟨more, whole⟩ := begins
    obtain ⟨otherLength, rfl, otherWritten⟩ :=
      LengthPrefix.encodeInt_eq_ok_iff.mp (encodeLength_int_eq_ok_iff.mp encoded)
    have denotes := (LengthPrefix.denotes_of_encode written).1
    have otherDenotes := (LengthPrefix.denotes_of_encode otherWritten).1
    obtain ⟨same, rfl, -⟩ := denotes.eq_of_append_eq otherDenotes
      (whole.trans (List.append_nil other).symm)
    exact ⟨same, rfl⟩

/-- What becomes of a number that is to be written as a length. -/
inductive IsCoded (number : Int) : Prop
  | written {length : Nat} {prefixBytes : Bytes}
      (isLength : number = length)
      (bound : length ≤ LengthPrefix.maximum)
      (encoded : encodeLength (.int number) = .ok prefixBytes)
      (isCodeWord : IsCodeWord prefixBytes length)
  | refused {error : Error}
      (outside : ¬ (0 ≤ number ∧ number ≤ LengthPrefix.maximum))
      (failed : encodeLength (.int number) = .error error)
      (isValue : error.kind = .value)

/-- Every number is written as a code word if it is a length up to the maximum, and is refused
otherwise. -/
theorem isCoded (number : Int) : IsCoded number := by
  by_cases range : 0 ≤ number ∧ number ≤ LengthPrefix.maximum
  · obtain ⟨prefixBytes, encoded⟩ := LengthPrefix.exists_encodeInt_iff.mpr range
    obtain ⟨length, rfl, written⟩ := LengthPrefix.encodeInt_eq_ok_iff.mp encoded
    exact .written rfl (Int.ofNat_le.mp range.2) (encodeLength_int_eq_ok_iff.mpr encoded)
      (isCodeWord_of_encode written)
  · cases result : encodeLength (.int number) with
    | error error => exact .refused range result (kind_of_encodeLength_eq_error result)
    | ok prefixBytes =>
        have encoded := encodeLength_int_eq_ok_iff.mp result
        exact absurd (LengthPrefix.exists_encodeInt_iff.mp ⟨prefixBytes, encoded⟩) range

example : decodeLength [0xAA, 0xC0, 0x40, 0x00, 0x07] (.int 1) = .ok (some (0x4000, 4)) := by decide

end Wire
end RouterApi
