import RouterApi.Text.Digit
import RouterApi.Text.Blank
import RouterApi.Binary64

/-!
# Numerals

The reading of integers and decimal fractions. White space may surround a numeral, digits may be
those of any script, and single underscores may stand between digits. An integer in decimal has at
most 4300 digits.
-/

namespace RouterApi
namespace Numeral

/-- Why a text is no numeral. -/
inductive Fault
  | malformed
  | tooManyDigits (count : Nat)
  deriving DecidableEq, Repr

/-- The greatest number of digits of an integer in decimal. -/
def maximumDigits : Nat := 4300

/-- The value of a digit in a base: a decimal digit of any script or an ASCII letter. -/
def digitIn? (base : Nat) (point : CodePoint) : Option Nat :=
  match point.digitValue?.or point.hexValue? with
  | some value => if value < base then some value else none
  | none => none

/-- Whether a code point is a given ASCII character. -/
def isChar (character : Char) (point : CodePoint) : Bool :=
  point == CodePoint.ofChar character

/-- Drop the sign at the front of a text, and tell whether it was a minus. -/
def splitSign : Text → Bool × Text
  | [] => (false, [])
  | point :: rest =>
      if isChar '-' point then (true, rest)
      else if isChar '+' point then (false, rest)
      else (false, point :: rest)

/-- The digits at the front of a text and what follows them, after the digits already read, which
are held in reverse order. A single underscore may stand between two digits. -/
def spanDigitsOnto (base : Nat) (read : List Nat) : Text → Option (List Nat × Text)
  | [] => some (read.reverse, [])
  | point :: rest =>
      match digitIn? base point with
      | some value => spanDigitsOnto base (value :: read) rest
      | none =>
          if isChar '_' point then
            match read, rest with
            | _ :: _, next :: later =>
                match digitIn? base next with
                | some value => spanDigitsOnto base (value :: read) later
                | none => none
            | _, _ => none
          else some (read.reverse, point :: rest)

/-- The digits at the front of a text and what follows them; nothing if an underscore is
misplaced. -/
def spanDigits (base : Nat) (content : Text) : Option (List Nat × Text) :=
  spanDigitsOnto base [] content

/-- Read a whole text as digits with at most a given number of them. -/
def readDigits (base : Nat) (limit : Option Nat) (content : Text) : Except Fault Nat :=
  match spanDigits base content with
  | none => .error .malformed
  | some ([], _) => .error .malformed
  | some (digits, rest) =>
      if limit.any (· < digits.length) then .error (.tooManyDigits digits.length)
      else if rest.isEmpty then .ok (Text.digitsValue base digits)
      else .error .malformed

/-- Give a natural number a sign. -/
def signed (negative : Bool) (magnitude : Nat) : Int :=
  if negative then -magnitude else magnitude

/-- Read an integer in decimal. -/
def readInt (content : Text) : Except Fault Int :=
  let (negative, digits) := splitSign (content.trimWhere CodePoint.isNumberBlank)
  (readDigits 10 (some maximumDigits) digits).map (signed negative)

/-- Drop a hexadecimal marker at the front of a text, and one underscore after it. -/
def dropHexMark : Text → Text
  | first :: second :: rest =>
      if digitIn? 10 first = some 0 ∧ (isChar 'x' second ∨ isChar 'X' second) then
        match rest with
        | third :: later => if isChar '_' third then later else rest
        | [] => []
      else first :: second :: rest
  | other => other

/-- Read an integer in hexadecimal, which may carry its own marker after the sign. -/
def readHex (content : Text) : Except Fault Int :=
  let (negative, digits) := splitSign (content.trimWhere CodePoint.isNumberBlank)
  (readDigits 16 none (dropHexMark digits)).map (signed negative)

/-- Read the digits after an exponent mark, with an optional sign; nothing if there are none. -/
def readExponent (content : Text) : Option (Int × Text) :=
  let (negative, digits) := splitSign content
  match spanDigits 10 digits with
  | some (first :: more, rest) => some (signed negative (Text.digitsValue 10 (first :: more)), rest)
  | _ => none

/-- Read a whole text as digits with an optional fraction and exponent. -/
def readDecimal (negative : Bool) (content : Text) : Option Binary64 := do
  let (whole, rest) ← spanDigits 10 content
  let (fraction, rest) ← match rest with
    | point :: later => if isChar '.' point then spanDigits 10 later else some ([], rest)
    | [] => some ([], [])
  if whole.isEmpty && fraction.isEmpty then none
  else
    let (exponent, rest) ← match rest with
      | point :: later =>
          if isChar 'e' point || isChar 'E' point then readExponent later else some (0, rest)
      | [] => some (0, [])
    if rest.isEmpty then
      let digits := (whole ++ fraction).dropWhile (· == 0)
      some (Binary64.ofDecimal negative (Text.digitsValue 10 digits) digits.length
        (exponent - fraction.length))
    else none

/-- Read a decimal fraction, an infinity, or the value that is no number. -/
def readFloat (content : Text) : Except Fault Binary64 :=
  let (negative, body) := splitSign (content.trimWhere CodePoint.isNumberBlank)
  let name := body.map CodePoint.toLower
  if name == literal "inf" || name == literal "infinity" then .ok (Binary64.infinity negative)
  else if name == literal "nan" then .ok Binary64.nan
  else match readDecimal negative body with
    | some number => .ok number
    | none => .error .malformed

end Numeral
end RouterApi
