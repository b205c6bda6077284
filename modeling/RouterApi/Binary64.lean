import RouterApi.Text

/-!
# Binary floating point

Double-precision numbers by their 64 bits: a sign, eleven bits of exponent and fifty-two of
fraction. A quotient of naturals is rounded to the nearest number, a tie to the even one, in exact
arithmetic; and the decimal text of a number has the fewest digits that read back as it.
-/

namespace RouterApi

/-- A double-precision number. -/
structure Binary64 where
  bits : UInt64
  deriving DecidableEq, Repr

namespace Binary64

/-- A power of two. -/
def twoTo (exponent : Nat) : Nat :=
  Nat.pow 2 exponent

/-- A power of ten. -/
def tenTo (exponent : Nat) : Nat :=
  Nat.pow 10 exponent

/-- What a number denotes: a signed multiple of a power of two, an infinity, or no number. -/
inductive View
  | finite (negative : Bool) (significand : Nat) (exponent : Int)
  | infinite (negative : Bool)
  | notANumber
  deriving DecidableEq, Repr

/-- The bits without the sign. -/
def magnitude (number : Binary64) : Nat :=
  number.bits.toNat % twoTo 63

/-- Whether the sign bit is set. -/
def isNegative (number : Binary64) : Bool :=
  twoTo 63 ≤ number.bits.toNat

/-- What a number denotes. -/
def view (number : Binary64) : View :=
  let fraction : Nat := number.magnitude % twoTo 52
  let exponent : Nat := number.magnitude / twoTo 52
  if exponent = 0x7FF then
    if fraction = 0 then .infinite number.isNegative else .notANumber
  else if exponent = 0 then .finite number.isNegative fraction (-1074)
  else .finite number.isNegative (twoTo 52 + fraction) ((exponent : Int) - 1075)

/-- Assemble a number from its sign and its other bits. -/
def ofMagnitude (negative : Bool) (magnitude : Nat) : Binary64 :=
  ⟨UInt64.ofNat (if negative then twoTo 63 + magnitude else magnitude)⟩

/-- The magnitude of the infinities. -/
def infinityMagnitude : Nat := 0x7FF * twoTo 52

/-- An infinity. -/
def infinity (negative : Bool) : Binary64 :=
  ofMagnitude negative infinityMagnitude

/-- A quiet value that is no number. -/
def nan : Binary64 :=
  ⟨0x7FF8000000000000⟩

/-- The same number with the opposite sign. -/
def negate (number : Binary64) : Binary64 :=
  ofMagnitude (!number.isNegative) number.magnitude

/-- Whether a number is a zero of either sign. -/
def isZero (number : Binary64) : Bool :=
  number.magnitude == 0

/-- The quotient rounded to the nearest natural, a tie to the even one. -/
def roundDiv (numerator denominator : Nat) : Nat :=
  let quotient := numerator / denominator
  let twice := 2 * (numerator % denominator)
  if twice < denominator then quotient
  else if denominator < twice then quotient + 1
  else quotient + quotient % 2

/-- The exponent of the power of two that starts the binade of a positive quotient. -/
def binadeOf (numerator denominator : Nat) : Int :=
  let estimate := (numerator.log2 : Int) - denominator.log2
  let reached : Bool := match estimate with
    | .ofNat shift => denominator * twoTo shift ≤ numerator
    | .negSucc pred => denominator ≤ numerator * twoTo (pred + 1)
  if reached then estimate else estimate - 1

/-- The number nearest to a quotient of naturals, with the given sign. -/
def ofQuotient (negative : Bool) (numerator denominator : Nat) : Binary64 :=
  if numerator = 0 then ofMagnitude negative 0
  else
    let exponent := max (binadeOf numerator denominator - 52) (-1074)
    let significand := match exponent with
      | .ofNat shift => roundDiv numerator (denominator * twoTo shift)
      | .negSucc pred => roundDiv (numerator * twoTo (pred + 1)) denominator
    let magnitude := (exponent + 1074).toNat * twoTo 52 + significand
    if magnitude < infinityMagnitude then ofMagnitude negative magnitude else infinity negative

/-- The number nearest to a natural times a power of ten, given the count of the natural's digits.
A magnitude far outside the range is decided by the count alone. -/
def ofDecimal (negative : Bool) (significand digits : Nat) (exponent : Int) : Binary64 :=
  if significand = 0 then ofMagnitude negative 0
  else if 400 < exponent + digits then infinity negative
  else if exponent + digits < -400 then ofMagnitude negative 0
  else match exponent with
    | .ofNat power => ofQuotient negative (significand * tenTo power) 1
    | .negSucc pred => ofQuotient negative significand (tenTo (pred + 1))

/-- The fraction that a finite number is, numerator and denominator. -/
def toFraction? (number : Binary64) : Option (Int × Nat) :=
  match number.view with
  | .finite negative significand exponent =>
      let signed : Int := if negative then -significand else significand
      match exponent with
      | .ofNat shift => some (signed * twoTo shift, 1)
      | .negSucc pred => some (signed, twoTo (pred + 1))
  | _ => none

/-- The two naturals next to a quotient, the nearer one first. -/
def neighbours (numerator denominator : Nat) : List Nat :=
  let below := numerator / denominator
  if roundDiv numerator denominator = below then [below, below + 1] else [below + 1, below]

/-- The digits and the decimal exponent of the shortest decimal that reads back as a positive finite
number; of the decimals of that length, the nearest one that does. The search starts with `count`
digits and tries one more per unit of fuel. -/
def shortestFrom (number : Binary64) (numerator denominator : Nat) (leading : Int) :
    Nat → Nat → Nat × Int
  | 0, count => (0, leading - count)
  | fuel + 1, count =>
      let exponent := leading + 1 - count
      let candidates := match exponent with
        | .ofNat power => neighbours numerator (denominator * tenTo power)
        | .negSucc pred => neighbours (numerator * tenTo (pred + 1)) denominator
      match candidates.find? fun digits => ofDecimal false digits (count + 1) exponent = number with
      | some digits => (digits, exponent)
      | none => shortestFrom number numerator denominator leading fuel (count + 1)

/-- The exponent of the leading decimal digit of a positive quotient. -/
def decadeOf (numerator denominator : Nat) : Int :=
  let estimate := ((Nat.toDigits 10 numerator).length : Int) - (Nat.toDigits 10 denominator).length
  let reached : Bool := match estimate with
    | .ofNat shift => denominator * tenTo shift ≤ numerator
    | .negSucc pred => denominator ≤ numerator * tenTo (pred + 1)
  if reached then estimate else estimate - 1

/-- The text of digits with a decimal exponent: positional from 10⁻⁴ up to below 10¹⁶, with a point
and a digit after it, and with an exponent of at least two digits otherwise. -/
def layout (significand : Nat) (exponent : Int) : Text :=
  let trimmed := ((Text.ofNat significand).reverse.dropWhile (· == CodePoint.ofChar '0')).reverse
  let count := (Text.ofNat significand).length
  let leading := exponent + count - 1
  let zeros (amount : Int) : Text := List.replicate amount.toNat (CodePoint.ofChar '0')
  if -4 ≤ leading ∧ leading < 16 then
    if leading < 0 then literal "0." ++ zeros (-leading - 1) ++ trimmed
    else
      let whole := (leading + 1).toNat
      if trimmed.length ≤ whole then trimmed ++ zeros (whole - trimmed.length) ++ literal ".0"
      else trimmed.take whole ++ literal "." ++ trimmed.drop whole
  else
    let mantissa := match trimmed with
      | first :: second :: rest => first :: literal "." ++ (second :: rest)
      | other => other
    let sign := if leading < 0 then literal "-" else literal "+"
    mantissa ++ literal "e" ++ sign ++ Text.ofNatPadded 2 leading.natAbs

/-- The decimal text of a number. -/
def toText (number : Binary64) : Text :=
  match number.view with
  | .notANumber => literal "nan"
  | .infinite negative => if negative then literal "-inf" else literal "inf"
  | .finite negative significand exponent =>
      let sign := if negative then literal "-" else []
      if significand = 0 then sign ++ literal "0.0"
      else
        let (numerator, denominator) := match exponent with
          | .ofNat shift => (significand * twoTo shift, 1)
          | .negSucc pred => (significand, twoTo (pred + 1))
        let (digits, power) := shortestFrom (ofMagnitude false number.magnitude) numerator
          denominator (decadeOf numerator denominator) 17 1
        sign ++ layout digits power

end Binary64
end RouterApi
