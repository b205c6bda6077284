import RouterApi.Duration
import RouterApi.Numeral

/-!
# Reading durations

A duration is written as a run of counted units, such as `1w2d3h4m5s`, or as one decimal fraction
with a unit, such as `2.5 ms`; either may carry a sign in front. Whatever stands between counted
units is passed over.
-/

namespace RouterApi
namespace Duration

/-- Why a text denotes no duration that can be represented. -/
inductive Fault
  | overflow
  | tooManyDigits (count : Nat)
  deriving DecidableEq, Repr

/-- The unit at the front of a text and what follows it; a symbol of two letters is preferred. -/
def unit? (content : Text) : Option (TimeUnit × Text) :=
  let candidates : List TimeUnit :=
    [.millisecond, .microsecond, .nanosecond, .week, .day, .hour, .minute, .second]
  (candidates.find? fun unit => unit.symbol.isPrefixOf content).map fun unit =>
    (unit, content.drop unit.symbol.length)

/-- A counted unit as it is written: a sign of its own, digits, and the unit. -/
structure Count where
  negative : Bool
  digits : List Nat
  unit : TimeUnit
  deriving DecidableEq, Repr

/-- The counted units in a text, in order, looking at one position per unit of fuel. -/
def countsFrom : Nat → Text → List Count
  | 0, _ => []
  | _, [] => []
  | fuel + 1, point :: rest =>
      let (negative, body) := Numeral.splitSign (point :: rest)
      let (digits, after) := body.span CodePoint.isDigit
      if digits.isEmpty then countsFrom fuel rest
      else match unit? after with
        | some (unit, later) =>
            ⟨negative, digits.filterMap CodePoint.digitValue?, unit⟩ :: countsFrom fuel later
        | none => countsFrom fuel after

/-- The counted units in a text, in order. -/
def counts (content : Text) : List Count :=
  countsFrom content.length content

/-- The duration of a counted unit. -/
def Count.duration (count : Count) : Except Fault Duration :=
  if Numeral.maximumDigits < count.digits.length then .error (.tooManyDigits count.digits.length)
  else
    let amount := Numeral.signed count.negative (Text.digitsValue 10 count.digits)
    match scale? amount count.unit.duration with
    | some duration => .ok duration
    | none => .error .overflow

/-- Add the counted units to a duration, one after the other. -/
def addCounts (total : Duration) : List Count → Except Fault Duration
  | [] => .ok total
  | count :: later =>
      match count.duration with
      | .error fault => .error fault
      | .ok duration =>
          match add? total duration with
          | some sum => addCounts sum later
          | none => .error .overflow

/-- The units that may follow a decimal fraction. -/
def fractionUnits : List TimeUnit :=
  [.millisecond, .microsecond, .nanosecond, .hour, .minute, .second]

/-- Split a text that is a decimal fraction, a space and a unit, with at most one line end after
them. -/
def fraction? (content : Text) : Option (Text × TimeUnit) :=
  let (number, rest) := content.span fun point =>
    (0x30 ≤ point.val && point.val ≤ 0x39) || point == CodePoint.ofChar '.'
  if number.isEmpty then none
  else
    let found := fractionUnits.find? fun unit =>
      rest == literal " " ++ unit.symbol || rest == literal " " ++ unit.symbol ++ literal "\n"
    found.map fun unit => (number, unit)

/-- The duration of a decimal fraction of a unit; no time if the fraction is malformed. -/
def ofFraction (negative : Bool) (number : Text) (unit : TimeUnit) : Except Fault Duration :=
  match Numeral.readFloat number with
  | .error _ => .ok zero
  | .ok count =>
      match scaleFloat? (if negative then count.negate else count) unit.duration with
      | some duration => .ok duration
      | none => .error .overflow

/-- Read a duration as the device writes it. -/
def read (content : Text) : Except Fault Duration :=
  if content.isEmpty then .ok zero
  else
    let (negative, body) := Numeral.splitSign content
    match fraction? body with
    | some (number, unit) => ofFraction negative number unit
    | none =>
        match addCounts zero (counts body) with
        | .error fault => .error fault
        | .ok total =>
            match scale? (if negative then -1 else 1) total with
            | some duration => .ok duration
            | none => .error .overflow

end Duration
end RouterApi
