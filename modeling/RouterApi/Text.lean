/-!
# Text

A text is a list of Unicode code points. Bytes that are no valid text are kept as lone
surrogates, so surrogates are ordinary members here and `String`, which excludes them, only
serves to write constants.
-/

namespace RouterApi

/-- A Unicode code point, surrogates included. -/
abbrev CodePoint := Fin 0x110000

/-- A sequence of code points. -/
abbrev Text := List CodePoint

/-- A sequence of bytes. -/
abbrev Bytes := List UInt8

namespace CodePoint

/-- The code point of a character. -/
def ofChar (character : Char) : CodePoint :=
  ⟨character.toNat, by
    have valid := character.valid
    simp only [UInt32.isValidChar, Nat.isValidChar] at valid
    simp only [Char.toNat]
    omega⟩

/-- The code point of a byte's value. -/
def ofByte (byte : UInt8) : CodePoint :=
  ⟨byte.toNat, Nat.lt_trans byte.toNat_lt (by decide)⟩

/-- A surrogate, which no encoding of text can carry as a character. -/
def isSurrogate (point : CodePoint) : Bool :=
  0xD800 ≤ point.val && point.val ≤ 0xDFFF

/-- Lower case of the ASCII letters; every other code point is kept. -/
def toLower (point : CodePoint) : CodePoint :=
  if 0x41 ≤ point.val ∧ point.val ≤ 0x5A then Fin.ofNat 0x110000 (point.val + 0x20) else point

/-- The value of an ASCII hexadecimal digit, in either letter case. -/
def hexValue? (point : CodePoint) : Option Nat :=
  let value := point.val
  if 0x30 ≤ value ∧ value ≤ 0x39 then some (value - 0x30)
  else if 0x41 ≤ value ∧ value ≤ 0x46 then some (value - 0x37)
  else if 0x61 ≤ value ∧ value ≤ 0x66 then some (value - 0x57)
  else none

end CodePoint

namespace Text

/-- The code points of a constant. -/
def ofString (content : String) : Text :=
  content.toList.map CodePoint.ofChar

/-- A natural number in decimal. -/
def ofNat (number : Nat) : Text :=
  (Nat.toDigits 10 number).map CodePoint.ofChar

/-- An integer in decimal, with a minus sign when it is negative. -/
def ofInt : Int → Text
  | .ofNat magnitude => ofNat magnitude
  | .negSucc pred => ofString "-" ++ ofNat (pred + 1)

/-- A natural number in lower-case hexadecimal, padded with zeros to a least width. -/
def ofNatHex (width number : Nat) : Text :=
  let digits := (Nat.toDigits 16 number).map CodePoint.ofChar
  List.replicate (width - digits.length) (CodePoint.ofChar '0') ++ digits

/-- A natural number in decimal, padded with zeros to a least width. -/
def ofNatPadded (width number : Nat) : Text :=
  let digits := ofNat number
  List.replicate (width - digits.length) (CodePoint.ofChar '0') ++ digits

/-- Whether a text contains another one as a contiguous part. -/
def mentions (part : Text) : Text → Bool
  | [] => part.isEmpty
  | point :: rest => part.isPrefixOf (point :: rest) || mentions part rest

/-- The parts before and after the first occurrence of a code point, or nothing if there is none. -/
def splitAtFirst? (separator : CodePoint) (content : Text) : Option (Text × Text) :=
  match content.span (· != separator) with
  | (_, []) => none
  | (before, _ :: after) => some (before, after)

/-- The texts, with a separator between neighbours. -/
def join (separator : Text) : List Text → Text
  | [] => []
  | [last] => last
  | first :: rest => first ++ separator ++ join separator rest

end Text

/-- A constant text. -/
abbrev literal (content : String) : Text := Text.ofString content

end RouterApi
