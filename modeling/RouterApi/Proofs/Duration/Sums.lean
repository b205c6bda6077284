import Mathlib.Data.List.Basic
import RouterApi.Duration.Reading

/-!
# Checked sums of durations

Every product and every sum that is made in reading a duration is checked against the range of
durations. This is what the checks of a whole text come to: which counted units add up, and to
what.
-/

namespace RouterApi
namespace Duration

/-! ## The range of durations -/

/-- A number of microseconds is in range if there is a duration of that length. -/
def IsInRange (microseconds : Int) : Prop :=
  -999999999 * microsecondsPerDay ≤ microseconds ∧
    microseconds < 1000000000 * microsecondsPerDay

instance (microseconds : Int) : Decidable (IsInRange microseconds) :=
  inferInstanceAs (Decidable (_ ∧ _))

theorem isInRange (duration : Duration) : IsInRange duration.microseconds :=
  ⟨duration.lower, duration.upper⟩

theorem isInRange_zero : IsInRange 0 :=
  zero.isInRange

/-- What lies between no time and an amount in range is in range. -/
theorem IsInRange.of_le
    {smaller greater : Int}
    (isInRange : IsInRange greater)
    (nonnegative : 0 ≤ smaller)
    (le : smaller ≤ greater) :
    IsInRange smaller :=
  ⟨Int.le_trans isInRange_zero.1 nonnegative, Int.lt_of_le_of_lt le isInRange.2⟩

theorem ext_microseconds
    {first second : Duration}
    (equal : first.microseconds = second.microseconds) :
    first = second := by
  cases first
  cases second
  cases equal
  rfl

theorem ofMicroseconds?_eq_some_iff
    {microseconds : Int}
    {duration : Duration} :
    ofMicroseconds? microseconds = some duration ↔ duration.microseconds = microseconds := by
  unfold ofMicroseconds?
  constructor
  · intro found
    split at found
    · cases found
      rfl
    · contradiction
  · rintro rfl
    exact dif_pos duration.isInRange

theorem add?_eq_some_iff
    {first second sum : Duration} :
    add? first second = some sum ↔
      sum.microseconds = first.microseconds + second.microseconds :=
  ofMicroseconds?_eq_some_iff

theorem scale?_eq_some_iff
    {factor : Int}
    {duration product : Duration} :
    scale? factor duration = some product ↔
      product.microseconds = factor * duration.microseconds :=
  ofMicroseconds?_eq_some_iff

/-! ## Counted units -/

namespace Count

/-- A counted unit is legible if its digits are not too many for a number. -/
def IsLegible (count : Count) : Prop :=
  count.digits.length ≤ Numeral.maximumDigits

instance (count : Count) : Decidable count.IsLegible :=
  inferInstanceAs (Decidable (_ ≤ _))

/-- The number of microseconds of a counted unit. -/
def amount (count : Count) : Int :=
  Numeral.signed count.negative (Text.digitsValue 10 count.digits) * count.unit.microseconds

theorem duration_of_isLegible
    {count : Count}
    (isLegible : count.IsLegible) :
    count.duration = match ofMicroseconds? count.amount with
      | some duration => .ok duration
      | none => .error .overflow := by
  unfold Count.duration
  rw [if_neg (Nat.not_lt.mpr isLegible)]
  rfl

theorem duration_eq_ok_iff
    {count : Count}
    {duration : Duration} :
    count.duration = .ok duration ↔
      count.IsLegible ∧ duration.microseconds = count.amount := by
  by_cases isLegible : count.IsLegible
  · rw [duration_of_isLegible isLegible, ← ofMicroseconds?_eq_some_iff]
    cases ofMicroseconds? count.amount with
    | some found => simp [isLegible]
    | none => simp
  · rw [Count.duration, if_pos (Nat.lt_of_not_le isLegible)]
    simp [isLegible]

end Count

/-- The number of microseconds of a list of counted units. -/
def total : List Count → Int
  | [] => 0
  | count :: later => count.amount + total later

@[simp] theorem total_nil : total [] = 0 := rfl

@[simp] theorem total_cons (count : Count) (later : List Count) :
    total (count :: later) = count.amount + total later := rfl

/-! ## Adding up -/

variable {start : Int} {count : Count} {later counts : List Count} {duration sum : Duration}
  {fault : Fault}

/-- Counted units add up from an amount if each of them is legible and in range, and each sum on
the way is in range, the last one included. -/
structure AddUp (start : Int) (counts : List Count) : Prop where
  legible : ∀ count ∈ counts, count.IsLegible
  amounts : ∀ count ∈ counts, IsInRange count.amount
  sums : ∀ earlier, earlier <+: counts → IsInRange (start + total earlier)

theorem addUp_nil_iff : AddUp start [] ↔ IsInRange start := by
  constructor
  · intro addUp
    simpa using addUp.sums [] List.nil_prefix
  · intro isInRange
    refine ⟨by simp, by simp, fun earlier isPrefix => ?_⟩
    rw [List.prefix_nil.mp isPrefix]
    simpa using isInRange

theorem addUp_cons_iff :
    AddUp start (count :: later) ↔
      IsInRange start ∧ count.IsLegible ∧ IsInRange count.amount ∧
        AddUp (start + count.amount) later := by
  constructor
  · intro addUp
    obtain ⟨isLegible, legible⟩ := List.forall_mem_cons.mp addUp.legible
    obtain ⟨isInRange, amounts⟩ := List.forall_mem_cons.mp addUp.amounts
    refine ⟨by simpa using addUp.sums [] List.nil_prefix, isLegible, isInRange, legible, amounts,
      fun earlier isPrefix => ?_⟩
    have reached := addUp.sums (count :: earlier) ((List.prefix_cons_inj count).mpr isPrefix)
    rwa [total_cons, ← Int.add_assoc] at reached
  · rintro ⟨starts, isLegible, isInRange, addUp⟩
    refine ⟨List.forall_mem_cons.mpr ⟨isLegible, addUp.legible⟩,
      List.forall_mem_cons.mpr ⟨isInRange, addUp.amounts⟩, fun earlier isPrefix => ?_⟩
    cases earlier with
    | nil => simpa using starts
    | cons first rest =>
        obtain ⟨rfl, restIsPrefix⟩ := List.cons_prefix_cons.mp isPrefix
        rw [total_cons, ← Int.add_assoc]
        exact addUp.sums rest restIsPrefix

/-- Adding counted units succeeds exactly if they add up, and with their total. -/
theorem addCounts_eq_ok_iff :
    addCounts duration counts = .ok sum ↔
      AddUp duration.microseconds counts ∧
        sum.microseconds = duration.microseconds + total counts := by
  induction counts generalizing duration with
  | nil =>
      rw [addCounts, addUp_nil_iff, total_nil, Int.add_zero, Except.ok.injEq]
      constructor
      · rintro rfl
        exact ⟨duration.isInRange, rfl⟩
      · rintro ⟨-, equal⟩
        exact (ext_microseconds equal).symm
  | cons count later inductionHypothesis =>
      rw [addUp_cons_iff, addCounts, total_cons, ← Int.add_assoc]
      constructor
      · intro added
        split at added
        · contradiction
        · rename_i amount counted
          obtain ⟨isLegible, amounts⟩ := Count.duration_eq_ok_iff.mp counted
          split at added
          · rename_i next found
            have reached := add?_eq_some_iff.mp found
            rw [inductionHypothesis, reached, amounts] at added
            exact ⟨⟨duration.isInRange, isLegible, amounts ▸ amount.isInRange, added.1⟩, added.2⟩
          · contradiction
      · rintro ⟨⟨-, isLegible, isInRange, addUp⟩, summed⟩
        have reached : IsInRange (duration.microseconds + count.amount) := by
          simpa using addUp.sums [] List.nil_prefix
        have counted : count.duration = .ok ⟨count.amount, isInRange.1, isInRange.2⟩ :=
          Count.duration_eq_ok_iff.mpr ⟨isLegible, rfl⟩
        have found : add? duration ⟨count.amount, isInRange.1, isInRange.2⟩ =
            some ⟨duration.microseconds + count.amount, reached.1, reached.2⟩ :=
          add?_eq_some_iff.mpr rfl
        simp only [counted, found]
        exact inductionHypothesis.mpr ⟨addUp, summed⟩

/-- Of legible counted units only the range can be missed. -/
theorem addCounts_eq_error_of_legible
    (legible : ∀ count ∈ counts, count.IsLegible)
    (failed : addCounts duration counts = .error fault) :
    fault = .overflow := by
  induction counts generalizing duration with
  | nil => cases failed
  | cons count later inductionHypothesis =>
      obtain ⟨isLegible, legible⟩ := List.forall_mem_cons.mp legible
      rw [addCounts, Count.duration_of_isLegible isLegible] at failed
      cases found : ofMicroseconds? count.amount with
      | none =>
          simp only [found] at failed
          cases failed
          rfl
      | some amount =>
          simp only [found] at failed
          split at failed
          · exact inductionHypothesis legible failed
          · cases failed
            rfl

/-- Where nothing is counted backwards, the last sum is the only check that matters. -/
theorem addUp_iff_of_nonnegative
    (nonnegative : 0 ≤ start)
    (legible : ∀ count ∈ counts, count.IsLegible)
    (forwards : ∀ count ∈ counts, 0 ≤ count.amount) :
    AddUp start counts ↔ IsInRange (start + total counts) := by
  constructor
  · intro addUp
    exact addUp.sums counts (List.prefix_refl counts)
  · intro isInRange
    induction counts generalizing start with
    | nil => exact addUp_nil_iff.mpr (by simpa using isInRange)
    | cons count later inductionHypothesis =>
        obtain ⟨isLegible, legible⟩ := List.forall_mem_cons.mp legible
        obtain ⟨forward, forwards⟩ := List.forall_mem_cons.mp forwards
        rw [total_cons, ← Int.add_assoc] at isInRange
        have addUp := inductionHypothesis (Int.add_nonneg nonnegative forward) legible forwards
          isInRange
        have reached : IsInRange (start + count.amount) := by
          simpa using addUp.sums [] List.nil_prefix
        exact addUp_cons_iff.mpr
          ⟨reached.of_le nonnegative (by omega), isLegible,
            reached.of_le forward (by omega), addUp⟩

/-! ## Reading counted units -/

section Reading

variable {content body : Text} {negative : Bool}

/-- The factor that a sign stands for. -/
def factor (negative : Bool) : Int :=
  if negative then -1 else 1

/-- Reading counted units adds them up and applies the sign in front of them to their total. -/
theorem read_of_counted
    (signed : Numeral.splitSign content = (negative, body))
    (counted : fraction? body = none) :
    read content = match addCounts zero (Duration.counts body) with
      | .error fault => .error fault
      | .ok total => match scale? (factor negative) total with
          | some duration => .ok duration
          | none => .error .overflow := by
  unfold read
  split
  · rename_i isEmpty
    cases List.isEmpty_iff.mp isEmpty
    cases signed
    rfl
  · rw [signed]
    simp only [counted]
    rfl

theorem read_eq_ok_iff_of_counted
    (signed : Numeral.splitSign content = (negative, body))
    (counted : fraction? body = none) :
    read content = .ok duration ↔
      AddUp 0 (Duration.counts body) ∧
        duration.microseconds = factor negative * total (Duration.counts body) := by
  rw [read_of_counted signed counted]
  constructor
  · intro succeeded
    split at succeeded
    · contradiction
    · rename_i sum added
      obtain ⟨addUp, summed⟩ := addCounts_eq_ok_iff.mp added
      split at succeeded
      · rename_i product scaled
        cases succeeded
        rw [scale?_eq_some_iff.mp scaled, summed]
        exact ⟨addUp, by simp [zero]⟩
      · contradiction
  · rintro ⟨addUp, equal⟩
    have reached : IsInRange (total (Duration.counts body)) := by
      simpa using addUp.sums _ (List.prefix_refl _)
    have added : addCounts zero (Duration.counts body) =
        .ok ⟨total (Duration.counts body), reached.1, reached.2⟩ :=
      addCounts_eq_ok_iff.mpr ⟨addUp, (Int.zero_add _).symm⟩
    have scaled : scale? (factor negative) ⟨_, reached.1, reached.2⟩ = some duration :=
      scale?_eq_some_iff.mpr equal
    simp only [added, scaled]

/-- Reading legible counted units fails by their range only. -/
theorem read_eq_error_of_counted
    (signed : Numeral.splitSign content = (negative, body))
    (counted : fraction? body = none)
    (legible : ∀ count ∈ Duration.counts body, count.IsLegible)
    (failed : read content = .error fault) :
    fault = .overflow := by
  rw [read_of_counted signed counted] at failed
  split at failed
  · rename_i added
    cases failed
    exact addCounts_eq_error_of_legible legible added
  · split at failed
    · contradiction
    · cases failed
      rfl

end Reading

end Duration
end RouterApi
