import RouterApi.Duration
import RouterApi.Timestamp
import RouterApi.Version
import RouterApi.Text.Quoted

/-!
# Values

Settings and the fields of records hold values of any kind. A value has a plain text, which is what
goes into a word, a quoted text, and a truth.
-/

namespace RouterApi

/-- A value of a setting or of a field of a record. -/
inductive Value
  | null
  | bool (truth : Bool)
  | int (number : Int)
  | float (number : Binary64)
  | text (content : Text)
  | bytes (content : Bytes)
  | duration (span : Duration)
  | time (moment : Timestamp)
  | version (number : Version)
  | pair (first second : Value)
  deriving DecidableEq, Repr

namespace Value

/-- The quoted form of bytes. -/
def quotedBytes (content : Bytes) : Text :=
  let points := content.map CodePoint.ofByte
  let quote := Text.quoteFor points
  let shown := points.flatMap fun point =>
    if point.val < 0x80 then Text.escape quote point
    else literal "\\x" ++ Text.ofNatHex 2 point.val
  literal "b" ++ quote :: shown ++ [quote]

/-- The plain text of a value other than a pair. -/
def plainText : Value → Text
  | null => literal "None"
  | bool truth => if truth then literal "True" else literal "False"
  | int number => Text.ofInt number
  | float number => number.toText
  | text content => content
  | bytes content => quotedBytes content
  | duration span => span.toText
  | time moment => moment.toText
  | version number =>
      literal "(" ++ Text.join (literal ", ") (number.components.map Text.ofInt) ++ literal ")"
  | pair _ _ => []

/-- The quoted text of a value: a text between quotes, a duration by its parts, anything else as in
a word. -/
def quoted : Value → Text
  | text content => content.quoted
  | duration span => span.inspect
  | pair first second => Text.paired first.quoted second.quoted
  | other => other.plainText

/-- The text of a value in a word. -/
def toText : Value → Text
  | pair first second => (pair first second).quoted
  | other => other.plainText

/-- Whether a value counts as true: empty texts, zeros and the null value do not. -/
def truth : Value → Bool
  | null => false
  | bool truth => truth
  | int number => number != 0
  | float number => !number.isZero
  | text content => !content.isEmpty
  | bytes content => !content.isEmpty
  | duration span => span.microseconds != 0
  | time _ => true
  | version _ => true
  | pair _ _ => true

/-- The integer that an integer or a truth value is. -/
def integer? : Value → Option Int
  | int number => some number
  | bool truth => some (if truth then 1 else 0)
  | _ => none

/-- The number that a value is, as a fraction, when it is a number or a truth value. -/
def fraction? : Value → Option (Int × Nat)
  | bool truth => some (if truth then 1 else 0, 1)
  | int number => some (number, 1)
  | float number => number.toFraction?
  | _ => none

/-- Whether a value is the number that is no number, which equals nothing. -/
def isNotANumber : Value → Bool
  | float number => number.view == .notANumber
  | _ => false

/-- Whether two values are the same key: numbers by their value, anything else by equality. -/
def sameKey (first second : Value) : Bool :=
  match first.fraction?, second.fraction? with
  | some (numerator, denominator), some (otherNumerator, otherDenominator) =>
      numerator * otherDenominator == otherNumerator * denominator
  | none, none => !first.isNotANumber && first == second
  | _, _ => false

/-- Whether a value has a text: an integer only has one up to a number of digits. -/
def isWritable : Value → Bool
  | int number => number.natAbs < Binary64.tenTo Numeral.maximumDigits
  | pair first second => first.isWritable && second.isWritable
  | _ => true

/-- What a message calls the type of a value. -/
def typeName : Value → Text
  | null => literal "None"
  | bool _ => literal "bool"
  | int _ => literal "int"
  | float _ => literal "float"
  | text _ => literal "str"
  | bytes _ => literal "bytes"
  | duration _ => literal "datetime.timedelta"
  | time _ => literal "datetime.datetime"
  | version _ | pair _ _ => literal "tuple"

end Value
end RouterApi
