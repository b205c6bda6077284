import Mathlib.Data.List.Induction
import Mathlib.Tactic.IntervalCases
import RouterApi.Hex

/-!
# Reading hexadecimal bytes

A text denotes bytes if, in lower case, it is what these bytes are written as. Reading gives the
bytes that a text denotes, and fails on every text that denotes none: one that is not made of pairs
of ASCII hexadecimal digits.
-/

namespace RouterApi

namespace CodePoint

variable {point : CodePoint} {value : Nat}

/-! ## Digits -/

/-- The lower-case hexadecimal digit of a value below sixteen. -/
def hexDigit (value : Nat) : CodePoint :=
  ofChar (Nat.digitChar value)

/-- The hexadecimal digits in ASCII, in both letter cases. -/
def hexDigits : Text :=
  literal "0123456789abcdefABCDEF"

theorem val_hexDigit (small : value < 16) :
    (hexDigit value).val = if value < 10 then value + 0x30 else value + 0x57 := by
  interval_cases value <;> rfl

theorem val_toLower (point : CodePoint) :
    point.toLower.val =
      if 0x41 ≤ point.val ∧ point.val ≤ 0x5A then point.val + 0x20 else point.val := by
  unfold toLower
  split
  · rename_i upper
    exact Nat.mod_eq_of_lt (by omega)
  · rfl

/-- The three runs of digits. -/
theorem hexValue?_eq_some_iff_val :
    point.hexValue? = some value ↔
      0x30 ≤ point.val ∧ point.val ≤ 0x39 ∧ value + 0x30 = point.val ∨
        0x41 ≤ point.val ∧ point.val ≤ 0x46 ∧ value + 0x37 = point.val ∨
        0x61 ≤ point.val ∧ point.val ≤ 0x66 ∧ value + 0x57 = point.val := by
  simp only [hexValue?]
  split_ifs <;> simp only [Option.some.injEq, false_iff] <;> omega

/-- The value of a digit is that of its lower case. -/
theorem hexValue?_eq_some_iff :
    point.hexValue? = some value ↔ value < 16 ∧ point.toLower = hexDigit value := by
  rw [hexValue?_eq_some_iff_val]
  constructor
  · intro runs
    have small : value < 16 := by omega
    refine ⟨small, Fin.ext ?_⟩
    rw [val_toLower, val_hexDigit small]
    split_ifs <;> omega
  · rintro ⟨small, lower⟩
    have same := congrArg Fin.val lower
    rw [val_toLower, val_hexDigit small] at same
    split_ifs at same <;> omega

theorem lt_of_hexValue?_eq_some (valued : point.hexValue? = some value) : point.val < 0x80 := by
  have runs := hexValue?_eq_some_iff_val.mp valued
  omega

/-- The digits that have a value are those of ASCII. -/
theorem isSome_hexValue?_iff : point.hexValue?.isSome = true ↔ point ∈ hexDigits := by
  have ascii : ∀ code : Fin 0x80,
      (hexValue? (code.castLE (by decide))).isSome = true →
        code.castLE (by decide) ∈ hexDigits := by
    decide +kernel
  have valued : hexDigits.all (·.hexValue?.isSome) = true := by decide
  constructor
  · intro isSome
    obtain ⟨value, same⟩ := Option.isSome_iff_exists.mp isSome
    exact ascii ⟨point.val, lt_of_hexValue?_eq_some same⟩ isSome
  · exact List.all_eq_true.mp valued point

end CodePoint

namespace Hex

open CodePoint (hexDigit hexDigits)

variable {digits : Text} {bytes : Bytes}

/-! ## Bytes -/

/-- A byte is written as its two digits. -/
theorem encodeByte_ofNat
    {upper lower : Nat}
    (upperSmall : upper < 16)
    (lowerSmall : lower < 16) :
    encodeByte (UInt8.ofNat (upper * 16 + lower)) = [hexDigit upper, hexDigit lower] := by
  have whole : ∀ upper lower : Fin 16,
      encodeByte (UInt8.ofNat (upper.val * 16 + lower.val)) =
        [hexDigit upper.val, hexDigit lower.val] := by
    decide +kernel
  exact whole ⟨upper, upperSmall⟩ ⟨lower, lowerSmall⟩

theorem exists_encodeByte_eq (byte : UInt8) :
    ∃ upper lower, upper < 16 ∧ lower < 16 ∧ byte = UInt8.ofNat (upper * 16 + lower) := by
  have bound := byte.toNat_lt
  refine ⟨byte.toNat / 16, byte.toNat % 16, by omega, by omega, ?_⟩
  rw [Nat.div_add_mod', UInt8.ofNat_toNat]

/-- A text denotes bytes if it is what they are written as, in either letter case. -/
def Denotes
    (digits : Text)
    (bytes : Bytes) : Prop :=
  digits.map CodePoint.toLower = encode bytes

/-- A text is made of digit pairs if all of it are hexadecimal digits, and their number is even. -/
structure IsDigitPairs (digits : Text) : Prop where
  even : digits.length % 2 = 0
  hexadecimal : ∀ digit ∈ digits, digit ∈ hexDigits

theorem denotes_nil_iff : Denotes digits [] ↔ digits = [] :=
  List.map_eq_nil_iff

/-- What denotes bytes starts with a pair of digits for the first of them. -/
theorem denotes_cons_iff
    {byte : UInt8} :
    Denotes digits (byte :: bytes) ↔
      ∃ high low rest upper lower, digits = high :: low :: rest ∧
        high.hexValue? = some upper ∧ low.hexValue? = some lower ∧
        byte = UInt8.ofNat (upper * 16 + lower) ∧ Denotes rest bytes := by
  constructor
  · intro denotes
    obtain ⟨upper, lower, upperSmall, lowerSmall, rfl⟩ := exists_encodeByte_eq byte
    unfold Denotes encode at denotes
    rw [List.flatMap_cons, encodeByte_ofNat upperSmall lowerSmall] at denotes
    obtain ⟨high, more, rfl, first, denotes⟩ := List.map_eq_cons_iff.mp denotes
    obtain ⟨low, rest, rfl, second, denotes⟩ := List.map_eq_cons_iff.mp denotes
    exact ⟨high, low, rest, upper, lower, rfl,
      CodePoint.hexValue?_eq_some_iff.mpr ⟨upperSmall, first⟩,
      CodePoint.hexValue?_eq_some_iff.mpr ⟨lowerSmall, second⟩, rfl, denotes⟩
  · rintro ⟨high, low, rest, upper, lower, rfl, first, second, rfl, denotes⟩
    obtain ⟨upperSmall, highLower⟩ := CodePoint.hexValue?_eq_some_iff.mp first
    obtain ⟨lowerSmall, lowLower⟩ := CodePoint.hexValue?_eq_some_iff.mp second
    unfold Denotes encode at denotes ⊢
    rw [List.flatMap_cons, encodeByte_ofNat upperSmall lowerSmall, ← denotes, List.map_cons,
      List.map_cons, highLower, lowLower]
    rfl

/-! ## Reading -/

/-- Pairs are read one after the other. -/
theorem decodePairs_eq_ok_iff
    {read : Bytes}
    (even : digits.length % 2 = 0) :
    decodePairs read digits = .ok bytes ↔
      ∃ later, bytes = read.reverse ++ later ∧ Denotes digits later := by
  induction read, digits using decodePairs.induct generalizing bytes with
  | case1 read high low rest upper lower second first inductionHypothesis =>
      have evenRest : rest.length % 2 = 0 := by
        simp only [List.length_cons] at even
        omega
      rw [decodePairs, first, second, inductionHypothesis evenRest]
      constructor
      · rintro ⟨later, rfl, denotes⟩
        refine ⟨UInt8.ofNat (upper * 16 + lower) :: later, by simp, ?_⟩
        exact denotes_cons_iff.mpr
          ⟨high, low, rest, upper, lower, rfl, first, second, rfl, denotes⟩
      · rintro ⟨later, rfl, whole⟩
        cases later with
        | nil => cases denotes_nil_iff.mp whole
        | cons byte later =>
            obtain ⟨_, _, _, _, _, same, otherFirst, otherSecond, rfl, denotes⟩ :=
              denotes_cons_iff.mp whole
            cases same
            cases first.symm.trans otherFirst
            cases second.symm.trans otherSecond
            exact ⟨later, by simp, denotes⟩
  | case2 read high low rest malformed =>
      have failed : decodePairs read (high :: low :: rest) = .error .notHexadecimal := by
        rw [decodePairs]
        split
        · rename_i upper lower first second
          exact absurd second (malformed upper lower first)
        · rfl
      rw [failed]
      constructor
      · nofun
      · rintro ⟨later, rfl, denotes⟩
        cases later with
        | nil => cases denotes_nil_iff.mp denotes
        | cons byte later =>
            obtain ⟨_, _, _, upper, lower, same, first, second, -⟩ := denotes_cons_iff.mp denotes
            cases same
            exact absurd second (malformed upper lower first)
  | case3 digits read short =>
      have empty : digits = [] := by
        cases digits with
        | nil => rfl
        | cons high rest =>
            cases rest with
            | nil => cases even
            | cons low rest => exact absurd rfl (short high low rest)
      subst empty
      have exhausted : decodePairs read [] = .ok read.reverse := rfl
      rw [exhausted]
      constructor
      · rintro ⟨⟩
        exact ⟨[], (List.append_nil _).symm, rfl⟩
      · rintro ⟨later, rfl, denotes⟩
        cases later with
        | nil => rw [List.append_nil]
        | cons byte later =>
            obtain ⟨_, _, _, _, _, same, -⟩ := denotes_cons_iff.mp denotes
            cases same

/-- A text that denotes bytes is made of digit pairs. -/
theorem Denotes.isDigitPairs (denotes : Denotes digits bytes) : IsDigitPairs digits := by
  induction bytes generalizing digits with
  | nil =>
      rw [denotes_nil_iff.mp denotes]
      exact ⟨rfl, List.forall_mem_nil _⟩
  | cons byte later inductionHypothesis =>
      obtain ⟨high, low, rest, upper, lower, rfl, first, second, -, denotes⟩ :=
        denotes_cons_iff.mp denotes
      obtain ⟨even, hexadecimal⟩ := inductionHypothesis denotes
      have highDigit := CodePoint.isSome_hexValue?_iff.mp (Option.isSome_of_eq_some first)
      have lowDigit := CodePoint.isSome_hexValue?_iff.mp (Option.isSome_of_eq_some second)
      refine ⟨?_, List.forall_mem_cons.mpr
        ⟨highDigit, List.forall_mem_cons.mpr ⟨lowDigit, hexadecimal⟩⟩⟩
      simp only [List.length_cons]
      omega

/-- A text made of digit pairs denotes bytes. -/
theorem IsDigitPairs.exists_denotes (pairs : IsDigitPairs digits) :
    ∃ bytes, Denotes digits bytes := by
  obtain ⟨even, hexadecimal⟩ := pairs
  induction digits using List.twoStepInduction with
  | nil => exact ⟨[], rfl⟩
  | singleton digit => cases even
  | cons_cons high low rest inductionHypothesis _ =>
      obtain ⟨highDigit, lowDigit, others⟩ :=
        List.forall_mem_cons.mp hexadecimal |>.imp_right List.forall_mem_cons.mp
      have evenRest : rest.length % 2 = 0 := by
        simp only [List.length_cons] at even
        omega
      obtain ⟨bytes, denotes⟩ := inductionHypothesis evenRest others
      obtain ⟨upper, first⟩ :=
        Option.isSome_iff_exists.mp (CodePoint.isSome_hexValue?_iff.mpr highDigit)
      obtain ⟨lower, second⟩ :=
        Option.isSome_iff_exists.mp (CodePoint.isSome_hexValue?_iff.mpr lowDigit)
      exact ⟨UInt8.ofNat (upper * 16 + lower) :: bytes, denotes_cons_iff.mpr
        ⟨high, low, rest, upper, lower, rfl, first, second, rfl, denotes⟩⟩

/-- Reading a text gives the bytes that it denotes, and fails if it denotes none. -/
theorem decode_eq_ok_iff : decode digits = .ok bytes ↔ Denotes digits bytes := by
  unfold decode decodeDigits
  constructor
  · intro decoded
    split_ifs at decoded with foreign odd
    obtain ⟨later, rfl, denotes⟩ :=
      (decodePairs_eq_ok_iff (Nat.mod_two_ne_one.mp odd)).mp decoded
    exact denotes
  · intro denotes
    obtain ⟨even, hexadecimal⟩ := denotes.isDigitPairs
    have ascii : digits.any (0x80 ≤ ·.val) = false := by
      refine List.any_eq_false.mpr fun digit member => ?_
      obtain ⟨value, valued⟩ := Option.isSome_iff_exists.mp
        (CodePoint.isSome_hexValue?_iff.mpr (hexadecimal digit member))
      have small := CodePoint.lt_of_hexValue?_eq_some valued
      simpa using small
    rw [ascii, if_neg Bool.false_ne_true, if_neg (by omega)]
    exact (decodePairs_eq_ok_iff even).mpr ⟨bytes, rfl, denotes⟩

example : decode (literal "0Af") = .error .oddLength := by decide

end Hex
end RouterApi
