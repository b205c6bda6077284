import RouterApi.Numeral

/-!
# Firmware versions

A version is three numbers, such as 7.18.2; those that are not written are zero, and whatever
follows them is ignored. Versions are compared number by number.
-/

namespace RouterApi

/-- A firmware version. -/
structure Version where
  major : Nat
  minor : Nat
  patch : Nat
  deriving DecidableEq, Repr

namespace Version

/-- Why a text denotes no version. -/
inductive Fault
  | malformed
  | tooManyDigits (count : Nat)
  deriving DecidableEq, Repr

/-- The number that a run of digits denotes. -/
def component (digits : Text) : Except Fault Nat :=
  if Numeral.maximumDigits < digits.length then .error (.tooManyDigits digits.length)
  else .ok (Text.digitsValue 10 (digits.filterMap CodePoint.digitValue?))

/-- The digits after a point at the front of a text, if there are any, and what follows them. -/
def minorDigits : Text → Text × Text
  | [] => ([], [])
  | point :: rest =>
      if point == CodePoint.ofChar '.' then
        match rest.span CodePoint.isDigit with
        | ([], _) => ([], point :: rest)
        | (digits, after) => (digits, after)
      else ([], point :: rest)

/-- Read the version at the front of a text, after any white space. -/
def read (content : Text) : Except Fault Version :=
  let (major, rest) := content.trim.span CodePoint.isDigit
  if major.isEmpty then .error .malformed
  else do
    let (minor, rest) := minorDigits rest
    let (patch, _) := minorDigits rest
    let major ← component major
    let minor ← component minor
    let patch ← component patch
    return ⟨major, minor, patch⟩

/-- The numbers of a version. -/
def components (version : Version) : List Int :=
  [version.major, version.minor, version.patch]

/-- A minimum with zeros in place of missing numbers. -/
def padMinimum (minimum : List Int) : List Int :=
  minimum ++ List.replicate (3 - minimum.length) 0

/-- Whether a version comes before a minimum in lexicographic order. -/
def isBelow (version : Version) (minimum : List Int) : Bool :=
  version.components < padMinimum minimum

end Version
end RouterApi
