import RouterApi.Binary64

/-!
# Durations

A duration is a whole number of microseconds of at most 999999999 days, to the end of the last day.
Every sum and product is checked against that range. The device writes a duration as a run of
counted units, from weeks down to microseconds.
-/

namespace RouterApi

/-- The number of microseconds in a day. -/
def microsecondsPerDay : Int := 86400000000

/-- A duration in microseconds, in the range of 999999999 days either way. -/
structure Duration where
  microseconds : Int
  lower : -999999999 * microsecondsPerDay ≤ microseconds
  upper : microseconds < 1000000000 * microsecondsPerDay
  deriving DecidableEq, Repr

namespace Duration

/-- The duration of a number of microseconds, if it is in range. -/
def ofMicroseconds? (microseconds : Int) : Option Duration :=
  if bounds : -999999999 * microsecondsPerDay ≤ microseconds ∧
      microseconds < 1000000000 * microsecondsPerDay then
    some ⟨microseconds, bounds.1, bounds.2⟩
  else none

/-- No time. -/
def zero : Duration :=
  ⟨0, by decide, by decide⟩

/-- The sum of two durations, if it is in range. -/
def add? (first second : Duration) : Option Duration :=
  ofMicroseconds? (first.microseconds + second.microseconds)

/-- A whole multiple of a duration, if it is in range. -/
def scale? (factor : Int) (duration : Duration) : Option Duration :=
  ofMicroseconds? (factor * duration.microseconds)

/-- A multiple of a duration by a binary fraction, rounded to the nearest microsecond and a tie to
the even one, if it is in range. An infinite multiple never is. -/
def scaleFloat? (factor : Binary64) (duration : Duration) : Option Duration :=
  match factor.toFraction? with
  | none => none
  | some (numerator, denominator) =>
      let product := numerator * duration.microseconds
      let rounded := Binary64.roundDiv product.natAbs denominator
      ofMicroseconds? (if product < 0 then -rounded else rounded)

end Duration

/-- The units that the device counts durations in. -/
inductive TimeUnit
  | week
  | day
  | hour
  | minute
  | second
  | millisecond
  | microsecond
  | nanosecond
  deriving DecidableEq, Repr

namespace TimeUnit

/-- The symbol of a unit. -/
def symbol : TimeUnit → Text
  | week => literal "w"
  | day => literal "d"
  | hour => literal "h"
  | minute => literal "m"
  | second => literal "s"
  | millisecond => literal "ms"
  | microsecond => literal "us"
  | nanosecond => literal "ns"

/-- The length of a unit in microseconds; a nanosecond is below the resolution and counts as none.
-/
def microseconds : TimeUnit → Nat
  | week => 604800000000
  | day => 86400000000
  | hour => 3600000000
  | minute => 60000000
  | second => 1000000
  | millisecond => 1000
  | microsecond => 1
  | nanosecond => 0

/-- One of a unit. -/
def duration (unit : TimeUnit) : Duration :=
  ⟨unit.microseconds, by cases unit <;> decide, by cases unit <;> decide⟩

/-- The units that a written duration is made of, from the longest to the shortest. -/
def descending : List TimeUnit :=
  [week, day, hour, minute, second, millisecond, microsecond]

end TimeUnit

namespace Duration

/-- The counted units that make up a number of microseconds, each unit taking as much as it can. -/
def parts : List TimeUnit → Nat → List (Nat × TimeUnit)
  | [], _ => []
  | unit :: shorter, remaining =>
      let count := remaining / unit.microseconds
      let later := parts shorter (remaining % unit.microseconds)
      if count = 0 then later else (count, unit) :: later

/-- A duration as the device writes it. -/
def format (duration : Duration) : Text :=
  if duration.microseconds = 0 then literal "0s"
  else
    let sign := if duration.microseconds < 0 then literal "-" else []
    let counted := parts TimeUnit.descending duration.microseconds.natAbs
    sign ++ counted.flatMap fun (count, unit) => Text.ofNat count ++ unit.symbol

/-- A duration as clock time after a number of days. -/
def toText (duration : Duration) : Text :=
  let days := duration.microseconds.fdiv microsecondsPerDay
  let rest := (duration.microseconds.fmod microsecondsPerDay).toNat
  let seconds := rest / 1000000
  let fraction := rest % 1000000
  let dayPart :=
    if days = 0 then []
    else Text.ofInt days ++
      (if days.natAbs = 1 then literal " day, " else literal " days, ")
  let clock := Text.ofNat (seconds / 3600) ++ literal ":" ++
    Text.ofNatPadded 2 (seconds / 60 % 60) ++ literal ":" ++ Text.ofNatPadded 2 (seconds % 60)
  let fractionPart := if fraction = 0 then [] else literal "." ++ Text.ofNatPadded 6 fraction
  dayPart ++ clock ++ fractionPart

/-- A duration by its days, seconds and microseconds, of which those that are zero are left out, as
shown to a developer. -/
def inspect (duration : Duration) : Text :=
  let days := duration.microseconds.fdiv microsecondsPerDay
  let rest := duration.microseconds.fmod microsecondsPerDay
  let shown : List (Text × Int) := [(literal "days=", days), (literal "seconds=", rest / 1000000),
    (literal "microseconds=", rest % 1000000)]
  let named := (shown.filter fun entry => entry.2 != 0).map fun (name, amount) =>
    name ++ Text.ofInt amount
  literal "datetime.timedelta(" ++
    (if named.isEmpty then literal "0" else Text.join (literal ", ") named) ++ literal ")"

end Duration
end RouterApi
