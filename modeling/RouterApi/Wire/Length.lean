import RouterApi.Encoding

/-!
# Lengths as values

The length of a word and the position of a prefix as a caller gives them, which may be values of any
kind. Truth values count as zero and one. A fraction is compared like any number, and is refused
once it would have to be written or looked up.
-/

namespace RouterApi
namespace Wire

/-- Why a fraction has no prefix. Within the bounds it is no integer, which shows as a wrong type
where the prefix shares its bytes with the length, and as missing bytes where it does not. -/
def refusal (length : Binary64) : Error :=
  match length.toFraction?, length.view with
  | some (numerator, denominator), _ =>
      if numerator < 0 then .badLength .negative
      else if numerator < 0x10000000 * denominator then .unsupported .type
      else if numerator ≤ LengthPrefix.maximum * denominator then .unsupported .missingAttribute
      else .badLength (.tooLong (numerator / denominator).toNat)
  | none, .infinite negative => if negative then .badLength .negative else .outOfRange
  | none, _ => .notANumber

/-- The prefix for a length. -/
def encodeLength (length : Value) : Except Error Bytes :=
  match length.integer?, length with
  | some number, _ => (LengthPrefix.encodeInt number).mapError .badLength
  | none, .float number => .error (refusal number)
  | none, _ => .error (.unsupported .type)

/-- Whether a value is a number at or beyond the end of a buffer. -/
def isBeyond (buffer : Bytes) (position : Value) : Bool :=
  match position.fraction?, position with
  | some (numerator, denominator), _ => buffer.length * denominator ≤ numerator
  | none, .float number => number.view = .infinite false
  | none, _ => false

/-- Read the length at a position of a buffer, and the position after its prefix. A position beyond
the end is not looked up. -/
def decodeLength (buffer : Bytes) (position : Value) : Except Error (Option (Nat × Int)) :=
  if isBeyond buffer position then .ok none
  else
    match position.asIndex with
    | .error error => .error error
    | .ok index =>
        match LengthPrefix.readAt? buffer index with
        | .ok found => .ok found
        | .error (.reserved byte) => .error (.framing (.reservedByte byte))
        | .error .outside => .error .outside

end Wire
end RouterApi
