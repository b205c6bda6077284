import RouterApi.Text

/-!
# Minted tags

A tag is the decimal form of the number of tags minted so far, so different tags are minted from
different numbers.
-/

namespace RouterApi

theorem CodePoint.ofChar_injective
    {first second : Char}
    (same : CodePoint.ofChar first = CodePoint.ofChar second) :
    first = second := by
  have toNat_eq : first.toNat = second.toNat := Fin.mk.inj same
  exact Char.toNat_inj.mp toNat_eq

/-- Different numbers have different decimal forms. -/
theorem Text.ofNat_injective
    {first second : Nat}
    (same : Text.ofNat first = Text.ofNat second) :
    first = second := by
  have digits_eq : Nat.toDigits 10 first = Nat.toDigits 10 second :=
    (List.map_inj_right fun _ _ => CodePoint.ofChar_injective).mp same
  rw [← Nat.ofDigitChars_ten_toDigits (n := first), digits_eq]
  exact Nat.ofDigitChars_ten_toDigits

end RouterApi
