import Mathlib.Algebra.Group.Nat.Defs
import Mathlib.Data.List.Basic
import RouterApi.Numeral

/-!
# Numbers in decimal

The decimal form of a number consists of digits, which denote the number.
-/

namespace RouterApi

namespace CodePoint

/-- The value of an ASCII digit. -/
theorem digitValue?_ofChar
    {character : Char}
    (digit : character.isDigit = true) :
    (ofChar character).digitValue? = some (character.toNat - '0'.toNat) := by
  simp only [Char.isDigit, Bool.and_eq_true, decide_eq_true_eq, UInt32.le_iff_toNat_le] at digit
  have low : 48 ≤ character.toNat := digit.1
  have high : character.toNat ≤ 57 := digit.2
  have found : decimalZeros.find? (fun first => first ≤ (ofChar character).val &&
      (ofChar character).val < first + 10) = some 0x30 := by
    refine List.find?_cons_of_pos ?_
    show (decide (48 ≤ character.toNat) && decide (character.toNat < 58)) = true
    simp only [Bool.and_eq_true, decide_eq_true_eq]
    omega
  rw [digitValue?, found]
  rfl

theorem isDigit_ofChar
    {character : Char}
    (digit : character.isDigit = true) :
    (ofChar character).isDigit = true := by
  rw [isDigit, digitValue?_ofChar digit]
  rfl

/-- A digit is none of the characters that are not digits. -/
theorem ne_of_isDigit
    {point other : CodePoint}
    (digit : point.isDigit = true)
    (noDigit : other.isDigit = false) :
    point ≠ other := by
  rintro rfl
  rw [digit] at noDigit
  contradiction

end CodePoint

namespace Text

theorem ofNat_ne_nil (number : Nat) : ofNat number ≠ [] := by
  rw [ofNat, ne_eq, List.map_eq_nil_iff]
  exact Nat.toDigits_ne_nil

theorem isDigit_of_mem_ofNat
    {point : CodePoint}
    {number : Nat}
    (member : point ∈ ofNat number) :
    point.isDigit = true := by
  obtain ⟨character, digit, rfl⟩ := List.mem_map.mp member
  exact CodePoint.isDigit_ofChar (Nat.isDigit_of_mem_toDigits (by decide) (by decide) digit)

/-- A number has few digits exactly if it is small. -/
theorem length_ofNat_le_iff
    {number count : Nat}
    (positive : 0 < count) :
    (ofNat number).length ≤ count ↔ number < 10 ^ count := by
  rw [ofNat, List.length_map]
  exact Nat.length_toDigits_le_iff (by decide) positive

/-- The digits of a number denote it. -/
theorem digitsValue_ofNat (number : Nat) :
    digitsValue 10 ((ofNat number).filterMap CodePoint.digitValue?) = number := by
  have values : (ofNat number).filterMap CodePoint.digitValue? =
      (Nat.toDigits 10 number).map fun character => character.toNat - '0'.toNat := by
    rw [ofNat, List.filterMap_map]
    refine List.filterMap_eq_map_iff_forall_eq_some.mpr fun character member => ?_
    exact CodePoint.digitValue?_ofChar
      (Nat.isDigit_of_mem_toDigits (by decide) (by decide) member)
  calc
    digitsValue 10 ((ofNat number).filterMap CodePoint.digitValue?)
        = Nat.ofDigitChars 10 (Nat.toDigits 10 number) 0 := by
      rw [values, digitsValue, List.foldl_map, Nat.ofDigitChars]
      simp only [Nat.mul_comm]
    _ = number := Nat.ofDigitChars_ten_toDigits

end Text
end RouterApi
