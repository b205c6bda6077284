import RouterApi.Text

/-!
# Escaped bytes

A byte of 0x80 or more that is no part of valid text is kept as a lone low surrogate, 0xDC00 plus
the byte, and such a surrogate is written as the byte again. Bytes below 0x80 are never escaped.
-/

namespace RouterApi

/-- The lone surrogate that stands for a byte. -/
def CodePoint.escapeOf (byte : UInt8) : CodePoint :=
  ⟨0xDC00 + byte.toNat, by have := byte.toNat_lt; omega⟩

/-- The byte that a lone surrogate stands for, when it stands for one. -/
def CodePoint.escapedByte? (point : CodePoint) : Option UInt8 :=
  if 0xDC80 ≤ point.val ∧ point.val ≤ 0xDCFF then some (UInt8.ofNat (point.val - 0xDC00))
  else none

end RouterApi
