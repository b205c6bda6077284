import Mathlib.Data.List.Chain
import RouterApi.Proofs.Duration.Runs

/-!
# The canonical form of durations

A duration is written with each unit as often as possible, from the longest unit down to the
shortest, and without the units that do not occur. This form determines the duration, and reading
it gives the duration back.
-/

namespace RouterApi

/-! ## Neighbouring units -/

namespace TimeUnit

/-- The next longer unit, if there is one. A nanosecond, which counts as no time, has none. -/
def longer? : TimeUnit → Option TimeUnit
  | week => none
  | day => some week
  | hour => some day
  | minute => some hour
  | second => some minute
  | millisecond => some second
  | microsecond => some millisecond
  | nanosecond => none

variable {unit longer : TimeUnit}

theorem microseconds_pos_of_longer?
    (next : unit.longer? = some longer) :
    0 < longer.microseconds := by
  cases unit <;> cases next <;> decide

theorem microseconds_dvd_of_longer?
    (next : unit.longer? = some longer) :
    unit.microseconds ∣ longer.microseconds := by
  cases unit <;> cases next <;> decide

/-- Each unit of a list is the next longer one of the unit that follows. -/
abbrev Descend (units : List TimeUnit) : Prop :=
  units.IsChain fun longer unit => unit.longer? = some longer

theorem descend_descending : Descend descending := by
  decide

end TimeUnit

namespace Duration

/-! ## The parts of a number -/

/-- The number of microseconds that parts come to. -/
def sumOf : List (Nat × TimeUnit) → Nat
  | [] => 0
  | (count, unit) :: later => count * unit.microseconds + sumOf later

@[simp] theorem sumOf_nil : sumOf [] = 0 := rfl

@[simp] theorem sumOf_cons (count : Nat) (unit : TimeUnit) (later : List (Nat × TimeUnit)) :
    sumOf ((count, unit) :: later) = count * unit.microseconds + sumOf later := rfl

/-- Parts are bounded if none of them makes up one of the next longer unit. -/
def IsBounded (parts : List (Nat × TimeUnit)) : Prop :=
  ∀ part ∈ parts, ∀ longer, part.2.longer? = some longer →
    part.1 < longer.microseconds / part.2.microseconds

section Parts

variable {units : List TimeUnit} {number : Nat} {part : Nat × TimeUnit}

theorem parts_zero (units : List TimeUnit) : parts units 0 = [] := by
  induction units with
  | nil => rfl
  | cons unit shorter inductionHypothesis => simp [parts, inductionHypothesis]

theorem parts_cons_of_eq_zero
    {unit : TimeUnit}
    {shorter : List TimeUnit}
    (absent : number / unit.microseconds = 0) :
    parts (unit :: shorter) number = parts shorter (number % unit.microseconds) := by
  rw [parts, if_pos absent]

theorem parts_cons_of_ne_zero
    {unit : TimeUnit}
    {shorter : List TimeUnit}
    (occurs : number / unit.microseconds ≠ 0) :
    parts (unit :: shorter) number =
      (number / unit.microseconds, unit) :: parts shorter (number % unit.microseconds) := by
  rw [parts, if_neg occurs]

/-- No part of a number is lost if the shortest unit is among the units. -/
theorem sumOf_parts
    (shortest : TimeUnit.microsecond ∈ units) :
    sumOf (parts units number) = number := by
  induction units generalizing number with
  | nil => contradiction
  | cons unit shorter inductionHypothesis =>
      have taken : sumOf (parts (unit :: shorter) number) =
          number / unit.microseconds * unit.microseconds +
            sumOf (parts shorter (number % unit.microseconds)) := by
        by_cases absent : number / unit.microseconds = 0
        · rw [parts_cons_of_eq_zero absent, absent, Nat.zero_mul, Nat.zero_add]
        · rw [parts_cons_of_ne_zero absent, sumOf_cons]
      rw [taken]
      rcases List.mem_cons.mp shortest with rfl | shortest
      · have whole : TimeUnit.microsecond.microseconds = 1 := rfl
        rw [whole, Nat.mod_one, parts_zero, sumOf_nil, Nat.div_one, Nat.mul_one, Nat.add_zero]
      · rw [inductionHypothesis shortest, Nat.div_add_mod']

theorem sublist_parts (units : List TimeUnit) (number : Nat) :
    ((parts units number).map Prod.snd).Sublist units := by
  induction units generalizing number with
  | nil => exact List.Sublist.refl []
  | cons unit shorter inductionHypothesis =>
      by_cases absent : number / unit.microseconds = 0
      · rw [parts_cons_of_eq_zero absent]
        exact (inductionHypothesis _).cons unit
      · rw [parts_cons_of_ne_zero absent]
        exact (inductionHypothesis _).cons_cons unit

/-- A part is the greatest multiple of its unit in what the longer units leave. -/
theorem mem_parts_cons
    {unit : TimeUnit}
    {shorter : List TimeUnit}
    (member : part ∈ parts (unit :: shorter) number) :
    (number / unit.microseconds ≠ 0 ∧ part = (number / unit.microseconds, unit)) ∨
      part ∈ parts shorter (number % unit.microseconds) := by
  by_cases absent : number / unit.microseconds = 0
  · rw [parts_cons_of_eq_zero absent] at member
    exact .inr member
  · rw [parts_cons_of_ne_zero absent, List.mem_cons] at member
    exact member.imp_left (And.intro absent)

theorem pos_of_mem_parts
    (member : part ∈ parts units number) :
    0 < part.1 := by
  induction units generalizing number with
  | nil => contradiction
  | cons unit shorter inductionHypothesis =>
      rcases mem_parts_cons member with ⟨occurs, rfl⟩ | member
      · exact Nat.pos_of_ne_zero occurs
      · exact inductionHypothesis member

theorem le_of_mem_parts
    (member : part ∈ parts units number) :
    part.1 ≤ number := by
  induction units generalizing number with
  | nil => contradiction
  | cons unit shorter inductionHypothesis =>
      rcases mem_parts_cons member with ⟨-, rfl⟩ | member
      · exact Nat.div_le_self number unit.microseconds
      · exact Nat.le_trans (inductionHypothesis member) (Nat.mod_le _ _)

/-- No part makes up one of the next longer unit. -/
theorem lt_ratio_of_mem_parts
    {longer : TimeUnit}
    (descend : TimeUnit.Descend units)
    (small : ∀ first ∈ units.head?, ∀ above, first.longer? = some above →
      number < above.microseconds)
    (member : part ∈ parts units number)
    (next : part.2.longer? = some longer) :
    part.1 < longer.microseconds / part.2.microseconds := by
  induction units generalizing number with
  | nil => contradiction
  | cons unit shorter inductionHypothesis =>
      rcases mem_parts_cons member with ⟨-, rfl⟩ | member
      · exact Nat.div_lt_div_of_lt_of_dvd (TimeUnit.microseconds_dvd_of_longer? next)
          (small unit rfl longer next)
      · refine inductionHypothesis descend.tail ?_ member
        intro first isFirst above nextOfFirst
        -- what a unit leaves is less than one of it, and it is the one above the first that is left
        have above_eq : above = unit := by
          have linked := (List.isChain_cons.mp descend).1 first isFirst
          rw [nextOfFirst] at linked
          exact Option.some.inj linked
        rw [above_eq]
        exact Nat.mod_lt _ (above_eq ▸ TimeUnit.microseconds_pos_of_longer? nextOfFirst)

end Parts

/-! ## Parts in canonical order -/

section CanonicalOrder

variable {units : List TimeUnit} {run : List (Nat × TimeUnit)}

/-- Parts that make up none of a longer unit each do not do so together. -/
theorem sumOf_lt
    {above : TimeUnit}
    (descend : TimeUnit.Descend units)
    (below : ∀ first ∈ units.head?, first.longer? = some above)
    (positive : 0 < above.microseconds)
    (ordered : (run.map Prod.snd).Sublist units)
    (isBounded : IsBounded run) :
    sumOf run < above.microseconds := by
  induction units generalizing run above with
  | nil =>
      rw [List.map_eq_nil_iff.mp (List.sublist_nil.mp ordered), sumOf_nil]
      exact positive
  | cons unit shorter inductionHypothesis =>
      have next := below unit rfl
      have divides := TimeUnit.microseconds_dvd_of_longer? next
      have unitPositive := Nat.pos_of_dvd_of_pos divides positive
      have linked : ∀ first ∈ shorter.head?, first.longer? = some unit := by
        intro first isFirst
        exact (List.isChain_cons.mp descend).1 first isFirst
      rcases List.sublist_cons_iff.mp ordered with ordered | ⟨rest, equal, ordered⟩
      · have less := inductionHypothesis descend.tail linked unitPositive ordered isBounded
        exact Nat.lt_of_lt_of_le less (Nat.le_of_dvd positive divides)
      · obtain ⟨⟨count, found⟩, others, rfl, rfl, rfl⟩ := List.map_eq_cons_iff.mp equal
        obtain ⟨bound, othersBounded⟩ := List.forall_mem_cons.mp isBounded
        have less := inductionHypothesis descend.tail linked unitPositive ordered othersBounded
        calc
          sumOf ((count, found) :: others)
              = count * found.microseconds + sumOf others := sumOf_cons count found others
          _ < (count + 1) * found.microseconds := by
            rw [Nat.succ_mul]
            exact Nat.add_lt_add_left less _
          _ ≤ above.microseconds / found.microseconds * found.microseconds :=
            Nat.mul_le_mul_right _ (bound above next)
          _ = above.microseconds := Nat.div_mul_cancel divides

/-- Parts in canonical order are the parts of what they come to. -/
theorem parts_sumOf
    (descend : TimeUnit.Descend units)
    (measured : ∀ unit ∈ units, 0 < unit.microseconds)
    (ordered : (run.map Prod.snd).Sublist units)
    (positive : ∀ part ∈ run, 0 < part.1)
    (isBounded : IsBounded run) :
    parts units (sumOf run) = run := by
  induction units generalizing run with
  | nil =>
      rw [List.map_eq_nil_iff.mp (List.sublist_nil.mp ordered)]
      rfl
  | cons unit shorter inductionHypothesis =>
      obtain ⟨unitMeasured, shorterMeasured⟩ := List.forall_mem_cons.mp measured
      have linked := (List.isChain_cons.mp descend).1
      rcases List.sublist_cons_iff.mp ordered with ordered | ⟨rest, equal, ordered⟩
      · have small := sumOf_lt descend.tail linked unitMeasured ordered isBounded
        rw [parts_cons_of_eq_zero (Nat.div_eq_of_lt small), Nat.mod_eq_of_lt small]
        exact inductionHypothesis descend.tail shorterMeasured ordered positive isBounded
      · obtain ⟨⟨count, found⟩, others, rfl, rfl, rfl⟩ := List.map_eq_cons_iff.mp equal
        obtain ⟨-, othersBounded⟩ := List.forall_mem_cons.mp isBounded
        obtain ⟨countPositive, othersPositive⟩ := List.forall_mem_cons.mp positive
        have small := sumOf_lt descend.tail linked unitMeasured ordered othersBounded
        have whole : sumOf others + found.microseconds * count =
            sumOf ((count, found) :: others) := by
          rw [sumOf_cons, Nat.mul_comm, Nat.add_comm]
        obtain ⟨quotient, remainder⟩ := (Nat.div_mod_unique unitMeasured).mpr ⟨whole, small⟩
        have occurs : sumOf ((count, found) :: others) / found.microseconds ≠ 0 := by
          rw [quotient]
          exact Nat.pos_iff_ne_zero.mp countPositive
        rw [parts_cons_of_ne_zero occurs, quotient, remainder,
          inductionHypothesis descend.tail shorterMeasured ordered othersPositive othersBounded]

end CanonicalOrder

/-! ## The canonical form -/

/-- Counted units are canonical if there are any, the units descend, each of them occurs, and none
of them makes up one of the next longer unit. -/
structure IsCanonical (run : List (Nat × TimeUnit)) : Prop where
  nonempty : run ≠ []
  ordered : (run.map Prod.snd).Sublist TimeUnit.descending
  positive : ∀ part ∈ run, 0 < part.1
  isBounded : IsBounded run

/-- Counted units as they are written. -/
def spelled (run : List (Nat × TimeUnit)) : Text :=
  run.flatMap fun (count, unit) => Text.ofNat count ++ unit.symbol

/-- The canonical form of a duration: no seconds, or the canonical counted units that it comes to,
with a sign in front of them if it is negative. -/
inductive IsCanonicalForm (duration : Duration) : Text → Prop
  | zero (isZero : duration.microseconds = 0) : IsCanonicalForm duration (literal "0s")
  | counted
      (run : List (Nat × TimeUnit))
      (notZero : duration.microseconds ≠ 0)
      (isCanonical : IsCanonical run)
      (equal : sumOf run = duration.microseconds.natAbs) :
      IsCanonicalForm duration
        ((if duration.microseconds < 0 then literal "-" else []) ++ spelled run)

theorem isCanonical_parts
    {number : Nat}
    (notZero : number ≠ 0) :
    IsCanonical (parts TimeUnit.descending number) where
  nonempty := by
    intro empty
    have sum : sumOf (parts TimeUnit.descending number) = number := sumOf_parts (by decide)
    rw [empty, sumOf_nil] at sum
    exact notZero sum.symm
  ordered := sublist_parts TimeUnit.descending number
  positive := fun _ => pos_of_mem_parts
  isBounded := by
    intro part member longer next
    refine lt_ratio_of_mem_parts TimeUnit.descend_descending ?_ member next
    rintro _ ⟨⟩ above next
    cases next

theorem isCanonicalForm_format (duration : Duration) :
    IsCanonicalForm duration (format duration) := by
  unfold format
  split
  · rename_i isZero
    exact .zero isZero
  · rename_i notZero
    refine .counted _ notZero ?_ (sumOf_parts (by decide))
    exact isCanonical_parts (Int.natAbs_ne_zero.mpr notZero)

/-- A duration has one canonical form. -/
theorem isCanonicalForm_iff
    {duration : Duration}
    {content : Text} :
    IsCanonicalForm duration content ↔ content = format duration := by
  constructor
  · intro isCanonicalForm
    unfold format
    cases isCanonicalForm with
    | zero isZero => rw [if_pos isZero]
    | counted run notZero isCanonical equal =>
        have found := parts_sumOf TimeUnit.descend_descending (by decide) isCanonical.ordered
          isCanonical.positive isCanonical.isBounded
        rw [if_neg notZero, ← equal, found]
        rfl
  · rintro rfl
    exact isCanonicalForm_format duration

/-! ## Reading what is written -/

/-- A number as a count of a unit. -/
def Term.ofCount
    (count : Nat)
    (unit : TimeUnit)
    (legible : (Text.ofNat count).length ≤ Numeral.maximumDigits) :
    Term where
  digits := Text.ofNat count
  unit := unit
  nonempty := Text.ofNat_ne_nil count
  decimal := fun _ => Text.isDigit_of_mem_ofNat
  legible := legible

/-- Counted units are written as a run of terms of the same length. -/
theorem exists_written_eq_spelled
    {parts : List (Nat × TimeUnit)}
    (legible : ∀ part ∈ parts, (Text.ofNat part.1).length ≤ Numeral.maximumDigits) :
    ∃ run : List Term, written run = spelled parts ∧ amount run = sumOf parts := by
  induction parts with
  | nil => exact ⟨[], rfl, rfl⟩
  | cons part later inductionHypothesis =>
      obtain ⟨isLegible, legible⟩ := List.forall_mem_cons.mp legible
      obtain ⟨run, spells, sum⟩ := inductionHypothesis legible
      refine ⟨Term.ofCount part.1 part.2 isLegible :: run, ?_, ?_⟩
      · rw [written_cons, spells]
        rfl
      · rw [amount_cons, sum, sumOf_cons, Term.amount, Term.ofCount, Text.digitsValue_ofNat]

/-- The counts in a duration have few digits. -/
theorem length_ofNat_le_of_mem_parts
    {units : List TimeUnit}
    {part : Nat × TimeUnit}
    (duration : Duration)
    (member : part ∈ parts units duration.microseconds.natAbs) :
    (Text.ofNat part.1).length ≤ Numeral.maximumDigits := by
  have small : duration.microseconds.natAbs < 10 ^ 20 := by
    have isInRange := duration.isInRange
    unfold IsInRange microsecondsPerDay at isInRange
    omega
  have short : (Text.ofNat part.1).length ≤ 20 :=
    (Text.length_ofNat_le_iff (by decide)).mpr (Nat.lt_of_le_of_lt (le_of_mem_parts member) small)
  exact Nat.le_trans short (by decide)

theorem read_format (duration : Duration) : read (format duration) = .ok duration := by
  unfold format
  split
  · rename_i isZero
    have equal : duration = zero := ext_microseconds isZero
    rw [equal]
    rfl
  · have legible : ∀ part ∈ parts TimeUnit.descending duration.microseconds.natAbs,
        (Text.ofNat part.1).length ≤ Numeral.maximumDigits :=
      fun _ => length_ofNat_le_of_mem_parts duration
    obtain ⟨run, spells, sum⟩ := exists_written_eq_spelled legible
    rw [sumOf_parts (by decide)] at sum
    have signed : ∃ mark : Mark,
        (if duration.microseconds < 0 then literal "-" else []) = mark.text ∧
          duration.microseconds = factor mark.isMinus * duration.microseconds.natAbs := by
      by_cases negative : duration.microseconds < 0
      · refine ⟨.minus, if_pos negative, ?_⟩
        show duration.microseconds = -1 * duration.microseconds.natAbs
        omega
      · refine ⟨.absent, if_neg negative, ?_⟩
        show duration.microseconds = 1 * duration.microseconds.natAbs
        omega
    obtain ⟨mark, marked, equal⟩ := signed
    rw [marked]
    change read (mark.text ++ spelled _) = .ok duration
    rw [← spells, read_marked_eq_ok_iff, sum]
    refine ⟨?_, equal⟩
    have isInRange := duration.isInRange
    unfold IsInRange microsecondsPerDay at isInRange ⊢
    omega

/-- Reading undoes writing for every duration, what is written is the canonical form, and durations
with the same form are equal. -/
theorem canonical_round_trip (duration : Duration) :
    read (format duration) = .ok duration ∧
      IsCanonicalForm duration (format duration) ∧
      ∀ other, format other = format duration → other = duration := by
  refine ⟨read_format duration, isCanonicalForm_format duration, fun other same => ?_⟩
  have result := read_format other
  rw [same, read_format duration] at result
  exact (Except.ok.inj result).symm

end Duration
end RouterApi
