import RouterApi.Error
import RouterApi.Word
import RouterApi.InternalId
import RouterApi.Charset

/-!
# Converters

The conversions between attribute values, which are texts, and the fields of records. Reading a
value that the device wrote is lenient: a text that is no number reads as zero.
-/

namespace RouterApi

/-- A conversion of the values of a field. -/
inductive Converter
  | display
  | integer
  | readTruth
  | readInteger
  | readHexadecimal
  | readDecimal
  | readTimestamp
  | readDuration
  | readVersion
  | formatTruth
  | formatDuration
  | splitPair
  | splitIntegers
  | isInternalId
  | idWord
  deriving DecidableEq, Repr

namespace Converter

/-- Read a truth value by its first letter. -/
def truthOf (content : Text) : Bool :=
  match content with
  | [] => false
  | first :: _ => (literal "yY1tT").contains first

/-- Read an integer, or zero. -/
def integerOf (content : Text) : Int :=
  match Numeral.readInt content with
  | .ok number => number
  | .error _ => 0

/-- Read an integer in hexadecimal with or without a marker, or zero. -/
def hexadecimalOf (content : Text) : Int :=
  let marked := (content.take 2).map CodePoint.toLower == literal "0x"
  match Numeral.readHex (if marked then content.drop 2 else content) with
  | .ok number => number
  | .error _ => 0

/-- Read a decimal fraction, or zero. -/
def decimalOf (content : Text) : Binary64 :=
  match Numeral.readFloat content with
  | .ok number => number
  | .error _ => ⟨0⟩

/-- Read a version. -/
def versionOf (content : Text) : Except Error Version :=
  match Version.read content with
  | .ok version => .ok version
  | .error .malformed => .error (.notVersion content)
  | .error (.tooManyDigits count) => .error (.tooManyDigits count)

/-- Read an integer, which must be one, and which was written as the given value. -/
def strictInteger (written : Value) (content : Text) : Except Error Int :=
  match Numeral.readInt content with
  | .ok number => .ok number
  | .error fault => .error (.integer written fault)

/-- The integer that a number is when its fraction is dropped; an infinite number is none. -/
def truncate (number : Binary64) : Except Error Int :=
  match number.toFraction? with
  | some (numerator, denominator) => .ok (numerator.tdiv denominator)
  | none => .error (if number.view == .notANumber then .notANumber else .outOfRange)

/-- The integer that a number is when its fraction is dropped, or zero if it is no number. -/
def integerOfNumber (number : Binary64) : Except Error Int :=
  if number.view == .notANumber then .ok 0 else truncate number

/-- The binary fraction nearest to an integer, which must not be infinite. -/
def nearest (number : Int) : Except Error Binary64 :=
  let fraction := Binary64.ofQuotient (number < 0) number.natAbs 1
  if fraction.magnitude = Binary64.infinityMagnitude then .error .outOfRange else .ok fraction

/-- The two texts around the first slash and up to a second one; two empty texts without a slash. -/
def splitSlash (content : Text) : Text × Text :=
  match Text.splitAtFirst? (CodePoint.ofChar '/') content with
  | none => ([], [])
  | some (first, rest) =>
      match Text.splitAtFirst? (CodePoint.ofChar '/') rest with
      | none => (first, rest)
      | some (second, _) => (first, second)

/-- The word that addresses an existing entry; an empty identifier is refused. -/
def addressEntry (id : Value) : Except Error Text :=
  if id.truth then .ok (Word.ofAttribute (literal ".id") id) else .error .missingId

/-- Convert a text. -/
def applyText (converter : Converter) (content : Text) : Except Error Value :=
  match converter with
  | display => .ok (.text content)
  | integer => (strictInteger (.text content) content).map .int
  | readTruth => .ok (.bool (truthOf content))
  | readInteger => .ok (.int (integerOf content))
  | readHexadecimal => .ok (.int (hexadecimalOf content))
  | readDecimal => .ok (.float (decimalOf content))
  | readTimestamp =>
      match Timestamp.read? content with
      | some moment => .ok (.time moment)
      | none => .ok .null
  | readDuration =>
      match Duration.read content with
      | .ok span => .ok (.duration span)
      | .error fault => .error (.ofDuration fault)
  | readVersion => (versionOf content).map .version
  | formatTruth => .ok (.text (if content.isEmpty then literal "no" else literal "yes"))
  | formatDuration => .error (.unsupported .type)
  | splitPair =>
      let (first, second) := splitSlash content
      .ok (.pair (.text first) (.text second))
  | splitIntegers =>
      let (first, second) := splitSlash content
      .ok (.pair (.int (integerOf first)) (.int (integerOf second)))
  | isInternalId => .ok (.bool (InternalId.holds content))
  | idWord => (addressEntry (.text content)).map .text

/-- Convert bytes. Numbers are read from them as from a text. -/
def applyBytes (converter : Converter) (content : Bytes) : Except Error Value :=
  let read := Charset.ascii.decode content
  match converter with
  | integer => (strictInteger (.bytes content) read).map .int
  | readInteger => .ok (.int (integerOf read))
  | readHexadecimal => .ok (.int ((Numeral.readHex read).toOption.getD 0))
  | readDecimal => .ok (.float (decimalOf read))
  | readTruth => if content.isEmpty then .ok (.bool false) else .error (.unsupported .type)
  | readDuration =>
      if content.isEmpty then .ok (.duration .zero) else .error (.unsupported .type)
  | display => .ok (.text (Value.bytes content).toText)
  | formatTruth => .ok (.text (if content.isEmpty then literal "no" else literal "yes"))
  | idWord => (addressEntry (.bytes content)).map .text
  | readTimestamp | readVersion | formatDuration | splitPair | splitIntegers | isInternalId =>
      .error (.unsupported .type)

/-- Convert a value that is neither text nor bytes. -/
def applyOther (converter : Converter) (value : Value) : Except Error Value :=
  match converter, value with
  | display, _ => .ok (.text value.toText)
  | formatTruth, _ => .ok (.text (if value.truth then literal "yes" else literal "no"))
  | idWord, _ => (addressEntry value).map .text
  | formatDuration, .duration span => .ok (.text span.format)
  | integer, .int number | readInteger, .int number => .ok (.int number)
  | integer, .bool truth | readInteger, .bool truth => .ok (.int (if truth then 1 else 0))
  | integer, .float number => (truncate number).map .int
  | readInteger, .float number => (integerOfNumber number).map .int
  | readDecimal, .float number => .ok (.float number)
  | readDecimal, .int number => (nearest number).map .float
  | readDecimal, .bool truth => (nearest (if truth then 1 else 0)).map .float
  | readVersion, _ | splitPair, _ | splitIntegers, _ => .error (.unsupported .missingAttribute)
  | _, _ => .error (.unsupported .type)

/-- Convert a value. -/
def apply (converter : Converter) : Value → Except Error Value
  | .text content => converter.applyText content
  | .bytes content => converter.applyBytes content
  | value => converter.applyOther value

/-- Split a value, which must be a text, at a slash and convert both parts. -/
def splitWith (converter : Converter) (value : Value) : Except Error Value :=
  match value.asText with
  | .error error => .error error
  | .ok content =>
      let (first, second) := splitSlash content
      match converter.applyText first with
      | .error error => .error error
      | .ok first =>
          match converter.applyText second with
          | .error error => .error error
          | .ok second => .ok (.pair first second)

end Converter

/-- Accept a firmware version, which must be a text, that is at least a minimum. The error of any
other names the minimum, whose numbers must be writable for that. -/
def requireVersion (value : Value) (minimum : List Int) : Except Error Unit :=
  match value.asText with
  | .error error => .error error
  | .ok content =>
      match Converter.versionOf content with
      | .error error => .error error
      | .ok version =>
          if version.isBelow minimum then
            let wanted := Version.padMinimum minimum
            if wanted.all fun part => (Value.int part).isWritable then
              .error (.versionTooOld content.trim wanted)
            else .error .unwritable
          else .ok ()

end RouterApi
