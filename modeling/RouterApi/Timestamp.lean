import RouterApi.Text.Digit
import RouterApi.Text.Blank

/-!
# Timestamps

Dates with a time of day, and the two forms in which the device writes them: `jan/02/2006 15:04:05`
and `2006-01-02 15:04:05`.
-/

namespace RouterApi

/-- A date and a time of day. -/
structure Timestamp where
  year : Nat
  month : Nat
  day : Nat
  hour : Nat
  minute : Nat
  second : Nat
  deriving DecidableEq, Repr

namespace Timestamp

/-- Whether a year has a leap day. -/
def isLeap (year : Nat) : Bool :=
  (year % 4 == 0 && year % 100 != 0) || year % 400 == 0

/-- The number of days of a month. -/
def daysIn (year month : Nat) : Nat :=
  if month = 2 then (if isLeap year then 29 else 28)
  else if month = 4 ∨ month = 6 ∨ month = 9 ∨ month = 11 then 30
  else 31

/-- Whether the fields are a date of the calendar and a time of day. -/
def isValid (time : Timestamp) : Bool :=
  1 ≤ time.year && 1 ≤ time.month && time.month ≤ 12 && 1 ≤ time.day &&
    time.day ≤ daysIn time.year time.month && time.hour ≤ 23 && time.minute ≤ 59 &&
    time.second ≤ 59

/-- A class of digits with their values. -/
abbrev DigitClass := CodePoint → Option Nat

/-- The ASCII digits between two values. -/
def between (low high : Nat) : DigitClass := fun point =>
  if 0x30 + low ≤ point.val ∧ point.val ≤ 0x30 + high then some (point.val - 0x30) else none

/-- The decimal digits of any script. -/
def anyDigit : DigitClass :=
  CodePoint.digitValue?

/-- A space, which counts as no tens. -/
def space : DigitClass := fun point =>
  if point == CodePoint.ofChar ' ' then some 0 else none

/-- Read one digit per class as a number, after the digits that make up a value already. -/
def digitsAfter (value : Nat) : List DigitClass → Text → Option (Nat × Text)
  | [], content => some (value, content)
  | _ :: _, [] => none
  | first :: others, point :: rest =>
      match first point with
      | some digit => digitsAfter (value * 10 + digit) others rest
      | none => none

/-- Read the first of several forms that fits. -/
def firstOf (forms : List (List DigitClass)) (content : Text) : Option (Nat × Text) :=
  forms.findSome? fun form => digitsAfter 0 form content

/-- Day of the month, in one or two digits or after a space. -/
def dayForms : List (List DigitClass) :=
  [[between 3 3, between 0 1], [between 1 2, anyDigit], [between 0 0, between 1 9],
    [between 1 9], [space, between 1 9]]

/-- Month, in one or two digits. -/
def monthForms : List (List DigitClass) :=
  [[between 1 1, between 0 2], [between 0 0, between 1 9], [between 1 9]]

/-- Hour, in one or two digits. -/
def hourForms : List (List DigitClass) :=
  [[between 2 2, between 0 3], [between 0 1, anyDigit], [anyDigit]]

/-- Minute, in one or two digits. -/
def minuteForms : List (List DigitClass) :=
  [[between 0 5, anyDigit], [anyDigit]]

/-- Second, in one or two digits; 60 and 61 are read, but belong to no time of day. -/
def secondForms : List (List DigitClass) :=
  [[between 6 6, between 0 1], [between 0 5, anyDigit], [anyDigit]]

/-- Year, in four digits. -/
def yearForms : List (List DigitClass) :=
  [[anyDigit, anyDigit, anyDigit, anyDigit]]

/-- Drop a separator. -/
def separator (character : Char) : Text → Option Text
  | [] => none
  | point :: rest => if point == CodePoint.ofChar character then some rest else none

/-- Drop a run of white space. -/
def blanks : Text → Option Text
  | [] => none
  | point :: rest => if point.isBlank then some (rest.dropWhile CodePoint.isBlank) else none

/-- The abbreviated names of the months. -/
def monthNames : List Text :=
  [literal "jan", literal "feb", literal "mar", literal "apr", literal "may", literal "jun",
    literal "jul", literal "aug", literal "sep", literal "oct", literal "nov", literal "dec"]

/-- Read the name of a month in any letter case. -/
def monthName (content : Text) : Option (Nat × Text) :=
  let name := (content.take 3).map CodePoint.toLower
  (monthNames.findIdx? (· == name)).map fun index => (index + 1, content.drop 3)

/-- Read a time of day that takes the whole rest of a text. -/
def clock (year month day : Nat) (content : Text) : Option Timestamp := do
  let (hour, content) ← firstOf hourForms content
  let content ← separator ':' content
  let (minute, content) ← firstOf minuteForms content
  let content ← separator ':' content
  let (second, content) ← firstOf secondForms content
  if content.isEmpty then some ⟨year, month, day, hour, minute, second⟩ else none

/-- Read a timestamp with the name of the month first. -/
def readNamed (content : Text) : Option Timestamp := do
  let (month, content) ← monthName content
  let content ← separator '/' content
  let (day, content) ← firstOf dayForms content
  let content ← separator '/' content
  let (year, content) ← firstOf yearForms content
  let content ← blanks content
  clock year month day content

/-- Read a timestamp with the year first. -/
def readNumbered (content : Text) : Option Timestamp := do
  let (year, content) ← firstOf yearForms content
  let content ← separator '-' content
  let (month, content) ← firstOf monthForms content
  let content ← separator '-' content
  let (day, content) ← firstOf dayForms content
  let content ← blanks content
  clock year month day content

/-- Read a timestamp in either form; nothing if it is in neither or not in the calendar. -/
def read? (content : Text) : Option Timestamp :=
  [readNamed content, readNumbered content].findSome? fun found => found.filter isValid

/-- A timestamp with the year first. -/
def toText (time : Timestamp) : Text :=
  Text.ofNatPadded 4 time.year ++ literal "-" ++ Text.ofNatPadded 2 time.month ++ literal "-" ++
    Text.ofNatPadded 2 time.day ++ literal " " ++ Text.ofNatPadded 2 time.hour ++ literal ":" ++
    Text.ofNatPadded 2 time.minute ++ literal ":" ++ Text.ofNatPadded 2 time.second

end Timestamp
end RouterApi
