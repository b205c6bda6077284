import Mathlib.Data.List.Induction
import RouterApi.Wire.LengthPrefix

/-!
# Prefixes and the lengths they denote

There are five forms of prefixes, told apart by the leading bits of the first byte. Reading takes a
prefix of any form off the front of bytes. Writing picks the least one of those that denote a
length: the shortest and, since the longest form leaves three bits of its first byte unused, the
first in the order of bytes among those.
-/

namespace RouterApi
namespace LengthPrefix

/-- The prefixes that denote a length, by the number of their bytes. -/
inductive Denotes : Bytes → Nat → Prop
  | one {first : UInt8}
      (bound : first.toNat < 0x80) :
      Denotes [first] first.toNat
  | two {first second : UInt8}
      (least : 0x80 ≤ first.toNat)
      (bound : first.toNat < 0xC0) :
      Denotes [first, second] ((first.toNat - 0x80) * 0x100 + second.toNat)
  | three {first second third : UInt8}
      (least : 0xC0 ≤ first.toNat)
      (bound : first.toNat < 0xE0) :
      Denotes [first, second, third]
        (((first.toNat - 0xC0) * 0x100 + second.toNat) * 0x100 + third.toNat)
  | four {first second third fourth : UInt8}
      (least : 0xE0 ≤ first.toNat)
      (bound : first.toNat < 0xF0) :
      Denotes [first, second, third, fourth]
        ((((first.toNat - 0xE0) * 0x100 + second.toNat) * 0x100 + third.toNat) * 0x100 +
          fourth.toNat)
  | five {first second third fourth fifth : UInt8}
      (least : 0xF0 ≤ first.toNat)
      (bound : first.toNat < 0xF8) :
      Denotes [first, second, third, fourth, fifth]
        (((second.toNat * 0x100 + third.toNat) * 0x100 + fourth.toNat) * 0x100 + fifth.toNat)

variable {prefixBytes other bytes rest more : Bytes} {length : Nat} {first : UInt8}

/-- A prefix is read off the front of whatever follows it. -/
theorem read?_of_denotes
    (denotes : Denotes prefixBytes length)
    (rest : Bytes) :
    read? (prefixBytes ++ rest) = .ok (some (length, rest)) := by
  cases denotes with
  | one bound =>
      simp only [List.cons_append, List.nil_append, read?, lead]
      rw [if_pos bound]
      rfl
  | two least bound =>
      simp only [List.cons_append, List.nil_append, read?, lead]
      rw [if_neg (by omega), if_pos bound]
      rfl
  | three least bound =>
      simp only [List.cons_append, List.nil_append, read?, lead]
      rw [if_neg (by omega), if_neg (by omega), if_pos bound]
      rfl
  | four least bound =>
      simp only [List.cons_append, List.nil_append, read?, lead]
      rw [if_neg (by omega), if_neg (by omega), if_neg (by omega), if_pos bound]
      rfl
  | five least bound =>
      simp only [List.cons_append, List.nil_append, read?, lead]
      rw [if_neg (by omega), if_neg (by omega), if_neg (by omega), if_neg (by omega), if_pos bound]
      simp [readMore]

/-- The bytes that are read after the first one are those in front. -/
theorem exists_of_readMore
    {count bits : Nat}
    (found : readMore count bits bytes = some (length, rest)) :
    ∃ taken : Bytes, taken.length = count ∧ bytes = taken ++ rest ∧
      length = taken.foldl (fun value byte => value * 0x100 + byte.toNat) bits := by
  induction count generalizing bits bytes with
  | zero =>
      cases found
      exact ⟨[], rfl, rfl, rfl⟩
  | succ count inductionHypothesis =>
      cases bytes with
      | nil => cases found
      | cons byte later =>
          obtain ⟨taken, size, rfl, value⟩ := inductionHypothesis found
          exact ⟨byte :: taken, congrArg Nat.succ size, rfl, value⟩

/-- What is read is a prefix at the front. -/
theorem denotes_of_read?
    (found : read? bytes = .ok (some (length, rest))) :
    ∃ prefixBytes, Denotes prefixBytes length ∧ bytes = prefixBytes ++ rest := by
  cases bytes with
  | nil => cases found
  | cons first later =>
      simp only [read?, lead] at found
      split at found
      · cases found
      rename_i count bits ranges
      obtain ⟨taken, size, rfl, rfl⟩ := exists_of_readMore (Except.ok.inj found)
      refine ⟨first :: taken, ?_, rfl⟩
      split at ranges
      · rename_i bound
        cases ranges
        obtain rfl := List.length_eq_zero_iff.mp size
        exact .one bound
      split at ranges
      · rename_i least bound
        cases ranges
        obtain ⟨second, rfl⟩ := List.length_eq_one_iff.mp size
        exact .two (by omega) bound
      split at ranges
      · rename_i least bound
        cases ranges
        match taken, size with
        | [second, third], _ => exact .three (by omega) bound
      split at ranges
      · rename_i least bound
        cases ranges
        match taken, size with
        | [second, third, fourth], _ => exact .four (by omega) bound
      split at ranges
      · rename_i least bound
        cases ranges
        match taken, size with
        | [second, third, fourth, fifth], _ =>
            simp only [List.foldl_cons, List.foldl_nil, Nat.zero_mul, Nat.zero_add]
            exact .five (by omega) bound
      · contradiction

/-- Prefixes delimit themselves: two of them that start the same bytes are the same. -/
theorem Denotes.eq_of_append_eq
    {otherLength : Nat}
    (denotes : Denotes prefixBytes length)
    (otherDenotes : Denotes other otherLength)
    (same : prefixBytes ++ rest = other ++ more) :
    prefixBytes = other ∧ length = otherLength ∧ rest = more := by
  have read := read?_of_denotes denotes rest
  rw [same, read?_of_denotes otherDenotes more] at read
  cases read
  exact ⟨List.append_cancel_right same, rfl, rfl⟩

/-- A prefix that has been read is read in the same way when more bytes follow. -/
theorem read?_append
    (found : read? bytes = .ok (some (length, rest)))
    (more : Bytes) :
    read? (bytes ++ more) = .ok (some (length, rest ++ more)) := by
  obtain ⟨prefixBytes, denotes, rfl⟩ := denotes_of_read? found
  rw [List.append_assoc]
  exact read?_of_denotes denotes (rest ++ more)

/-- Exactly the bytes from 0xF8 on are reserved. -/
theorem lead_eq_error_iff
    {byte : UInt8} :
    lead byte = .error first ↔ byte = first ∧ 0xF8 ≤ byte.toNat := by
  unfold lead
  grind

theorem read?_eq_error_iff :
    read? bytes = .error first ↔ 0xF8 ≤ first.toNat ∧ ∃ rest, bytes = first :: rest := by
  cases bytes with
  | nil => simp [read?]
  | cons byte later =>
      have reserved_iff : read? (byte :: later) = .error first ↔ lead byte = .error first := by
        rw [read?]
        cases lead byte with
        | error reason => simp
        | ok form => simp
      rw [reserved_iff, lead_eq_error_iff]
      constructor
      · rintro ⟨rfl, reserved⟩
        exact ⟨reserved, later, rfl⟩
      · rintro ⟨reserved, rest, same⟩
        cases same
        exact ⟨rfl, reserved⟩

/-- A reserved byte is found however many bytes follow. -/
theorem read?_append_of_error
    (reserved : read? bytes = .error first)
    (more : Bytes) :
    read? (bytes ++ more) = .error first := by
  rw [read?_eq_error_iff] at reserved ⊢
  obtain ⟨reserved, rest, rfl⟩ := reserved
  exact ⟨reserved, rest ++ more, rfl⟩

/-- With as many bytes as are missing, the remaining bytes of a prefix can be read. -/
theorem exists_readMore_eq_some
    {count : Nat}
    (size : bytes.length = count)
    (bits : Nat) :
    ∃ length, readMore count bits bytes = some (length, []) := by
  induction bytes generalizing count bits with
  | nil =>
      cases size
      exact ⟨bits, rfl⟩
  | cons byte later inductionHypothesis =>
      cases size
      exact inductionHypothesis rfl (bits * 256 + byte.toNat)

theorem length_lt_of_readMore_eq_none
    {count bits : Nat}
    (incomplete : readMore count bits bytes = none) :
    bytes.length < count := by
  induction bytes generalizing count bits with
  | nil =>
      cases count with
      | zero => cases incomplete
      | succ count => exact Nat.succ_pos count
  | cons byte later inductionHypothesis =>
      cases count with
      | zero => cases incomplete
      | succ count => exact Nat.succ_lt_succ (inductionHypothesis incomplete)

/-- A prefix that is incomplete can be completed. -/
theorem exists_denotes_of_read?_eq_none
    (incomplete : read? bytes = .ok none) :
    ∃ more length, more ≠ [] ∧ Denotes (bytes ++ more) length := by
  cases bytes with
  | nil => exact ⟨[0], 0, List.cons_ne_nil _ _, .one (by decide)⟩
  | cons first later =>
      cases told : lead first with
      | error reason => simp [read?, told] at incomplete
      | ok form =>
          obtain ⟨count, bits⟩ := form
          simp only [read?, told, Except.ok.injEq] at incomplete
          have short := length_lt_of_readMore_eq_none incomplete
          have size : (later ++ List.replicate (count - later.length) 0).length = count := by
            rw [List.length_append, List.length_replicate]
            omega
          obtain ⟨length, found⟩ := exists_readMore_eq_some size bits
          have read : read? (first :: (later ++ List.replicate (count - later.length) 0)) =
              .ok (some (length, [])) := by
            simp only [read?, told, found]
          obtain ⟨prefixBytes, denotes, same⟩ := denotes_of_read? read
          rw [List.append_nil] at same
          refine ⟨List.replicate (count - later.length) 0, length, ?_, ?_⟩
          · rw [ne_eq, List.replicate_eq_nil_iff]
            omega
          · rwa [List.cons_append, same]

/-- A prefix takes at least one byte. -/
theorem Denotes.ne_nil (denotes : Denotes prefixBytes length) : prefixBytes ≠ [] := by
  cases denotes <;> exact List.cons_ne_nil _ _

/-- What is left after a prefix has been read is shorter. -/
theorem length_read?_lt
    (found : read? bytes = .ok (some (length, rest))) :
    rest.length < bytes.length := by
  obtain ⟨prefixBytes, denotes, rfl⟩ := denotes_of_read? found
  have positive := List.length_pos_iff.mpr denotes.ne_nil
  rw [List.length_append]
  omega

/-- The lengths that the prefixes of each size can denote. -/
theorem Denotes.size_and_bound (denotes : Denotes prefixBytes length) :
    (prefixBytes.length = 1 ∧ length < 0x80) ∨
    (prefixBytes.length = 2 ∧ length < 0x4000) ∨
    (prefixBytes.length = 3 ∧ length < 0x200000) ∨
    (prefixBytes.length = 4 ∧ length < 0x10000000) ∨
    (prefixBytes.length = 5 ∧ length ≤ maximum) := by
  unfold maximum
  cases denotes with
  | one bound => exact .inl ⟨rfl, bound⟩
  | @two first second =>
      have := second.toNat_lt
      exact .inr (.inl ⟨rfl, by omega⟩)
  | @three first second third =>
      have := second.toNat_lt
      have := third.toNat_lt
      exact .inr (.inr (.inl ⟨rfl, by omega⟩))
  | @four first second third fourth =>
      have := second.toNat_lt
      have := third.toNat_lt
      have := fourth.toNat_lt
      exact .inr (.inr (.inr (.inl ⟨rfl, by omega⟩)))
  | @five first second third fourth fifth =>
      have := second.toNat_lt
      have := third.toNat_lt
      have := fourth.toNat_lt
      have := fifth.toNat_lt
      exact .inr (.inr (.inr (.inr ⟨rfl, by omega⟩)))

theorem Denotes.le_maximum (denotes : Denotes prefixBytes length) : length ≤ maximum := by
  have bound := denotes.size_and_bound
  unfold maximum at bound ⊢
  omega

/-! ## Minimal prefixes -/

/-- A prefix is minimal if it is the least one that denotes its length: no other one is shorter, and
none of its size comes before it in the order of bytes. -/
structure IsMinimal
    (prefixBytes : Bytes)
    (length : Nat) : Prop where
  denotes : Denotes prefixBytes length
  shortest : ∀ {other}, Denotes other length → prefixBytes.length ≤ other.length
  least : ∀ {other}, Denotes other length → other.length = prefixBytes.length →
    prefixBytes ≤ other

/-- There is only one minimal prefix. -/
theorem IsMinimal.unique
    (minimal : IsMinimal prefixBytes length)
    (otherMinimal : IsMinimal other length) :
    prefixBytes = other := by
  have size : other.length = prefixBytes.length :=
    Nat.le_antisymm (otherMinimal.shortest minimal.denotes) (minimal.shortest otherMinimal.denotes)
  exact List.le_antisymm (minimal.least otherMinimal.denotes size)
    (otherMinimal.least minimal.denotes size.symm)

/-- Bytes are the low bytes of the number that they stand for. -/
theorem bigEndian_foldl
    (bytes : Bytes)
    (start : Nat) :
    bigEndian bytes.length (bytes.foldl (fun value byte => value * 0x100 + byte.toNat) start) =
      bytes := by
  induction bytes using List.reverseRecOn with
  | nil => rfl
  | append_singleton front last inductionHypothesis =>
      have bound := last.toNat_lt
      simp only [List.foldl_append, List.foldl_cons, List.foldl_nil, List.length_append,
        List.length_singleton, bigEndian]
      rw [show ∀ value, (value * 0x100 + last.toNat) / 256 = value by omega,
        show ∀ value, (value * 0x100 + last.toNat) % 256 = last.toNat by omega,
        inductionHypothesis, UInt8.ofNat_toNat]

/-- The number of bytes in the shortest prefixes that denote a length. -/
def size (length : Nat) : Nat :=
  if length < 0x80 then 1
  else if length < 0x4000 then 2
  else if length < 0x200000 then 3
  else if length < 0x10000000 then 4
  else 5

/-- The lengths of each size. -/
theorem size_and_range (length : Nat) :
    (size length = 1 ∧ length < 0x80) ∨
    (size length = 2 ∧ 0x80 ≤ length ∧ length < 0x4000) ∨
    (size length = 3 ∧ 0x4000 ≤ length ∧ length < 0x200000) ∨
    (size length = 4 ∧ 0x200000 ≤ length ∧ length < 0x10000000) ∨
    (size length = 5 ∧ 0x10000000 ≤ length) := by
  unfold size
  split
  · omega
  split
  · omega
  split
  · omega
  split
  · omega
  · omega

theorem Denotes.size_le (denotes : Denotes prefixBytes length) :
    size length ≤ prefixBytes.length := by
  have bound := denotes.size_and_bound
  have range := size_and_range length
  omega

/-- The number that bytes stand for is written as those bytes. -/
theorem bigEndian_eq_of_foldl
    {width number : Nat}
    (width_eq : bytes.length = width)
    (number_eq : bytes.foldl (fun value byte => value * 0x100 + byte.toNat) 0 = number) :
    bigEndian width number = bytes := by
  rw [← width_eq, ← number_eq, bigEndian_foldl]

/-- A shortest prefix is the one that is written, but for the unused bits of its first byte. -/
theorem encode_of_denotes
    (denotes : Denotes prefixBytes length)
    (shortest : prefixBytes.length = size length) :
    encode length = .ok prefixBytes ∨
      ∃ first rest, prefixBytes = first :: rest ∧ 0xF0 ≤ first.toNat ∧
        encode length = .ok (0xF0 :: rest) := by
  have bound := denotes.size_and_bound
  have range := size_and_range length
  rw [← shortest] at range
  unfold encode
  cases denotes with
  | @one first inRange =>
      left
      rw [if_pos inRange]
      refine congrArg Except.ok (bigEndian_eq_of_foldl rfl ?_)
      simp only [List.foldl_cons, List.foldl_nil]
      omega
  | @two first second =>
      left
      simp only [List.length_cons, List.length_nil] at bound range
      rw [if_neg (by omega), if_pos (by omega)]
      refine congrArg Except.ok (bigEndian_eq_of_foldl rfl ?_)
      simp only [List.foldl_cons, List.foldl_nil]
      omega
  | @three first second third =>
      left
      simp only [List.length_cons, List.length_nil] at bound range
      rw [if_neg (by omega), if_neg (by omega), if_pos (by omega)]
      refine congrArg Except.ok (bigEndian_eq_of_foldl rfl ?_)
      simp only [List.foldl_cons, List.foldl_nil]
      omega
  | @four first second third fourth =>
      left
      simp only [List.length_cons, List.length_nil] at bound range
      rw [if_neg (by omega), if_neg (by omega), if_neg (by omega), if_pos (by omega)]
      refine congrArg Except.ok (bigEndian_eq_of_foldl rfl ?_)
      simp only [List.foldl_cons, List.foldl_nil]
      omega
  | @five first second third fourth fifth least =>
      right
      simp only [List.length_cons, List.length_nil] at bound range
      refine ⟨first, _, rfl, least, ?_⟩
      rw [if_neg (by omega), if_neg (by omega), if_neg (by omega), if_neg (by omega),
        if_pos (by omega)]
      refine congrArg (fun rest => Except.ok (0xF0 :: rest)) (bigEndian_eq_of_foldl rfl ?_)
      simp only [List.foldl_cons, List.foldl_nil]
      omega

theorem Denotes.of_eq
    {value : Nat}
    (denotes : Denotes prefixBytes value)
    (value_eq : value = length) :
    Denotes prefixBytes length :=
  value_eq ▸ denotes

/-- Every length up to the maximum is denoted by a shortest prefix. -/
theorem exists_denotes
    (bound : length ≤ maximum) :
    ∃ prefixBytes, Denotes prefixBytes length ∧ prefixBytes.length = size length := by
  unfold maximum at bound
  have low (shift : Nat) : (UInt8.ofNat (length / shift)).toNat = length / shift % 0x100 :=
    UInt8.toNat_ofNat'
  rcases size_and_range length with range | range | range | range | range
  · have first : (UInt8.ofNat length).toNat = length % 0x100 := UInt8.toNat_ofNat'
    refine ⟨[UInt8.ofNat length], (Denotes.one ?_).of_eq ?_, range.1.symm⟩
    · omega
    · omega
  · have first : (UInt8.ofNat (0x80 + length / 0x100)).toNat = (0x80 + length / 0x100) % 0x100 :=
      UInt8.toNat_ofNat'
    refine ⟨[UInt8.ofNat (0x80 + length / 0x100), UInt8.ofNat (length / 1)],
      (Denotes.two ?_ ?_).of_eq ?_, range.1.symm⟩
    · omega
    · omega
    · rw [first, low]
      omega
  · have first : (UInt8.ofNat (0xC0 + length / 0x10000)).toNat =
        (0xC0 + length / 0x10000) % 0x100 := UInt8.toNat_ofNat'
    refine ⟨[UInt8.ofNat (0xC0 + length / 0x10000), UInt8.ofNat (length / 0x100),
      UInt8.ofNat (length / 1)], (Denotes.three ?_ ?_).of_eq ?_, range.1.symm⟩
    · omega
    · omega
    · rw [first, low, low]
      omega
  · have first : (UInt8.ofNat (0xE0 + length / 0x1000000)).toNat =
        (0xE0 + length / 0x1000000) % 0x100 := UInt8.toNat_ofNat'
    refine ⟨[UInt8.ofNat (0xE0 + length / 0x1000000), UInt8.ofNat (length / 0x10000),
      UInt8.ofNat (length / 0x100), UInt8.ofNat (length / 1)],
      (Denotes.four ?_ ?_).of_eq ?_, range.1.symm⟩
    · omega
    · omega
    · rw [first, low, low, low]
      omega
  · refine ⟨[0xF0, UInt8.ofNat (length / 0x1000000), UInt8.ofNat (length / 0x10000),
      UInt8.ofNat (length / 0x100), UInt8.ofNat (length / 1)],
      (Denotes.five (by decide) (by decide)).of_eq ?_, range.1.symm⟩
    rw [low, low, low, low]
    omega

/-- The unused bits of the first byte of a longest prefix do not matter. -/
theorem Denotes.clear
    (denotes : Denotes (first :: rest) length)
    (longest : 0xF0 ≤ first.toNat) :
    Denotes (0xF0 :: rest) length := by
  cases denotes with
  | one | two | three | four => omega
  | five => exact .five (by decide) (by decide)

/-- What is written for a length is a shortest prefix of it. -/
theorem denotes_of_encode
    (written : encode length = .ok prefixBytes) :
    Denotes prefixBytes length ∧ prefixBytes.length = size length := by
  have bound : length ≤ maximum := by
    refine Nat.le_of_not_lt fun above => ?_
    unfold maximum at above
    unfold encode maximum at written
    rw [if_neg (by omega), if_neg (by omega), if_neg (by omega), if_neg (by omega),
      if_neg (by omega)] at written
    cases written
  obtain ⟨candidate, denotes, shortest⟩ := exists_denotes bound
  rcases encode_of_denotes denotes shortest with same | ⟨first, rest, rfl, longest, same⟩
  · cases same.symm.trans written
    exact ⟨denotes, shortest⟩
  · cases same.symm.trans written
    exact ⟨denotes.clear longest, shortest⟩

/-- What is written for a length is its minimal prefix. -/
theorem isMinimal_of_encode
    (written : encode length = .ok prefixBytes) :
    IsMinimal prefixBytes length := by
  obtain ⟨denotes, shortest⟩ := denotes_of_encode written
  refine ⟨denotes, ?_, ?_⟩
  · intro other otherDenotes
    exact shortest ▸ otherDenotes.size_le
  · intro other otherDenotes sameSize
    rcases encode_of_denotes otherDenotes (sameSize.trans shortest) with
      same | ⟨first, rest, rfl, longest, same⟩
    · cases same.symm.trans written
      exact List.le_refl _
    · cases same.symm.trans written
      have longest : (0xF0 : UInt8) ≤ first := UInt8.le_iff_toNat_le.mpr longest
      rw [List.cons_le_cons_iff]
      rcases UInt8.lt_or_eq_of_le longest with before | same
      · exact .inl before
      · exact .inr ⟨same, List.le_refl _⟩

/-- Every length up to the maximum is written. -/
theorem exists_encode
    (bound : length ≤ maximum) :
    ∃ prefixBytes, encode length = .ok prefixBytes := by
  obtain ⟨candidate, denotes, shortest⟩ := exists_denotes bound
  rcases encode_of_denotes denotes shortest with written | ⟨first, rest, -, -, written⟩
  · exact ⟨_, written⟩
  · exact ⟨_, written⟩

/-- A prefix is minimal if and only if it is the one that is written. -/
theorem isMinimal_iff_encode :
    IsMinimal prefixBytes length ↔ encode length = .ok prefixBytes := by
  constructor
  · intro minimal
    obtain ⟨written, written_eq⟩ := exists_encode minimal.denotes.le_maximum
    rw [minimal.unique (isMinimal_of_encode written_eq), written_eq]
  · exact isMinimal_of_encode

end LengthPrefix
end RouterApi
