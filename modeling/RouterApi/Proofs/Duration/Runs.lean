import Mathlib.Data.List.TakeDrop
import RouterApi.Proofs.Duration.Sums
import RouterApi.Proofs.Numeral

/-!
# Runs of counted units

A run of counted units is read as the sum of its terms, whatever their order. The letters of the
units do not get in each other's way, since a digit follows each unit that is not the last; and all
checks that are made on the way come to two, of the sum before and after the sign is applied.
-/

namespace RouterApi

/-! ## What is at the front of a text -/

namespace TimeUnit

theorem head?_symbol_append
    (unit : TimeUnit)
    (rest : Text) :
    ∀ point ∈ (unit.symbol ++ rest).head?, point.isDigit = false := by
  cases unit <;> (rintro point ⟨⟩; decide)

theorem space_notMem_symbol (unit : TimeUnit) : CodePoint.ofChar ' ' ∉ unit.symbol := by
  cases unit <;> decide

end TimeUnit

namespace Duration

/-- A unit is found where it stands, if no letter follows it. -/
theorem unit?_symbol_append
    (unit : TimeUnit)
    {rest : Text}
    (starts : ∀ point ∈ rest.head?, point.isDigit = true) :
    unit? (unit.symbol ++ rest) = some (unit, rest) := by
  cases unit with
  -- the letter of a minute also begins the symbol of a millisecond
  | minute =>
      cases rest with
      | nil => rfl
      | cons point later =>
          have noSecond : (CodePoint.ofChar 's' == point) = false :=
            beq_false_of_ne (CodePoint.ne_of_isDigit (starts point rfl) (by decide)).symm
          have noMillisecond : TimeUnit.millisecond.symbol.isPrefixOf
              (TimeUnit.minute.symbol ++ point :: later) = false := by
            show (CodePoint.ofChar 's' == point && true) = false
            rw [noSecond]
            rfl
          rw [unit?, List.find?_cons_of_neg (by rw [noMillisecond]; decide)]
          rfl
  | _ => rfl

/-- A decimal fraction has a space in front of its unit. -/
theorem fraction?_eq_none_of_space_notMem
    {content : Text}
    (plain : CodePoint.ofChar ' ' ∉ content) :
    fraction? content = none := by
  unfold fraction?
  rw [List.span_eq_takeWhile_dropWhile]
  dsimp only
  split
  · rfl
  · rw [Option.map_eq_none_iff, List.find?_eq_none]
    intro unit _ found
    have member : CodePoint.ofChar ' ' ∈ content.dropWhile fun point =>
        (decide (0x30 ≤ point.val) && decide (point.val ≤ 0x39)) ||
          point == CodePoint.ofChar '.' := by
      rw [Bool.or_eq_true, beq_iff_eq, beq_iff_eq] at found
      rcases found with found | found <;> rw [found] <;> exact List.mem_cons_self
    exact plain ((List.dropWhile_suffix _).mem member)

/-! ## Terms -/

/-- A count of a unit as it may be written: its digits, which may be those of any script, are few
enough for a number. -/
structure Term where
  digits : Text
  unit : TimeUnit
  nonempty : digits ≠ []
  decimal : ∀ point ∈ digits, point.isDigit = true
  legible : digits.length ≤ Numeral.maximumDigits

namespace Term

/-- A term as it is written. -/
def written (term : Term) : Text :=
  term.digits ++ term.unit.symbol

/-- The number of microseconds of a term. -/
def amount (term : Term) : Nat :=
  Text.digitsValue 10 (term.digits.filterMap CodePoint.digitValue?) * term.unit.microseconds

/-- The counted unit that a term is read as. -/
def count (term : Term) : Count :=
  ⟨false, term.digits.filterMap CodePoint.digitValue?, term.unit⟩

theorem isLegible_count (term : Term) : term.count.IsLegible :=
  Nat.le_trans (List.length_filterMap_le _ _) term.legible

theorem amount_count (term : Term) : term.count.amount = term.amount := by
  rw [Count.amount, amount, Int.natCast_mul]
  rfl

theorem head?_written_append
    (term : Term)
    (rest : Text) :
    ∀ point ∈ (term.written ++ rest).head?, point.isDigit = true := by
  intro point first
  have member := term.decimal point
  have nonempty := term.nonempty
  unfold written at first
  cases digits : term.digits with
  | nil => exact absurd digits nonempty
  | cons digit others =>
      rw [digits] at first member
      cases first
      exact member List.mem_cons_self

theorem space_notMem_written (term : Term) : CodePoint.ofChar ' ' ∉ term.written := by
  rw [written, List.mem_append, not_or]
  refine ⟨fun member => ?_, term.unit.space_notMem_symbol⟩
  exact CodePoint.ne_of_isDigit (term.decimal _ member) (by decide) rfl

/-- A term is read from the front of a text, if no letter follows it. -/
theorem countsFrom_written_append
    (term : Term)
    {fuel : Nat}
    {rest : Text}
    (starts : ∀ point ∈ rest.head?, point.isDigit = true) :
    countsFrom (fuel + 1) (term.written ++ rest) = term.count :: countsFrom fuel rest := by
  have unsigned : Numeral.splitSign (term.written ++ rest) = (false, term.written ++ rest) :=
    Numeral.splitSign_of_head_isDigit (term.head?_written_append rest)
  have spanned : (term.written ++ rest).span CodePoint.isDigit =
      (term.digits, term.unit.symbol ++ rest) := by
    rw [written, List.append_assoc]
    exact Text.span_append term.decimal (term.unit.head?_symbol_append rest)
  have found := unit?_symbol_append term.unit starts
  cases content : term.written ++ rest with
  | nil => simp [written, term.nonempty] at content
  | cons point later =>
      rw [content] at unsigned spanned
      have given : term.digits.isEmpty = false := List.isEmpty_eq_false_iff.mpr term.nonempty
      simp only [countsFrom, unsigned, spanned, found, given]
      rfl

end Term

/-! ## Runs -/

/-- A run of terms as it is written. -/
def written (run : List Term) : Text :=
  run.flatMap Term.written

/-- The number of microseconds of a run. -/
def amount : List Term → Nat
  | [] => 0
  | term :: later => term.amount + amount later

@[simp] theorem written_cons (term : Term) (later : List Term) :
    written (term :: later) = term.written ++ written later := rfl

@[simp] theorem amount_cons (term : Term) (later : List Term) :
    amount (term :: later) = term.amount + amount later := rfl

theorem head?_written (run : List Term) :
    ∀ point ∈ (written run).head?, point.isDigit = true := by
  cases run with
  | nil => simp [written]
  | cons term later => exact term.head?_written_append (written later)

/-- Reading gives back the terms of a run. -/
theorem countsFrom_written
    {fuel : Nat}
    {run : List Term}
    (enough : run.length ≤ fuel) :
    countsFrom fuel (written run) = run.map Term.count := by
  induction run generalizing fuel with
  | nil => cases fuel <;> rfl
  | cons term later inductionHypothesis =>
      cases fuel with
      | zero => simp at enough
      | succ fuel =>
          rw [written_cons, term.countsFrom_written_append (head?_written later),
            inductionHypothesis (Nat.le_of_succ_le_succ enough), List.map_cons]

theorem length_le_length_written (run : List Term) : run.length ≤ (written run).length := by
  induction run with
  | nil => exact Nat.zero_le _
  | cons term later inductionHypothesis =>
      have nonempty := List.length_pos_iff.mpr term.nonempty
      simp only [written_cons, Term.written, List.length_append, List.length_cons]
      omega

theorem counts_written (run : List Term) : counts (written run) = run.map Term.count :=
  countsFrom_written (length_le_length_written run)

theorem total_counts_written (run : List Term) : total (counts (written run)) = amount run := by
  rw [counts_written]
  induction run with
  | nil => rfl
  | cons term later inductionHypothesis =>
      rw [List.map_cons, total_cons, inductionHypothesis, term.amount_count, amount_cons,
        Int.natCast_add]

theorem isLegible_of_mem_counts_written
    {run : List Term} :
    ∀ count ∈ counts (written run), count.IsLegible := by
  rw [counts_written, List.forall_mem_map]
  exact fun term _ => term.isLegible_count

theorem addUp_counts_written (run : List Term) :
    AddUp 0 (counts (written run)) ↔ IsInRange (amount run) := by
  have forwards : ∀ count ∈ counts (written run), 0 ≤ count.amount := by
    rw [counts_written, List.forall_mem_map]
    intro term _
    rw [term.amount_count]
    exact Int.natCast_nonneg _
  rw [addUp_iff_of_nonnegative (Int.le_refl 0) isLegible_of_mem_counts_written forwards,
    Int.zero_add, total_counts_written]

theorem fraction?_written (run : List Term) : fraction? (written run) = none := by
  refine fraction?_eq_none_of_space_notMem fun member => ?_
  obtain ⟨term, _, member⟩ := List.mem_flatMap.mp member
  exact term.space_notMem_written member

theorem amount_eq_of_perm
    {first second : List Term}
    (perm : first.Perm second) :
    amount first = amount second := by
  induction perm with
  | nil => rfl
  | cons term _ inductionHypothesis => rw [amount_cons, amount_cons, inductionHypothesis]
  | swap term other later =>
      simp only [amount_cons]
      omega
  | trans _ _ firstHypothesis secondHypothesis => exact firstHypothesis.trans secondHypothesis

/-! ## Signs -/

/-- What may stand in front of a run. -/
inductive Mark
  | absent
  | plus
  | minus
  deriving DecidableEq, Repr

namespace Mark

/-- A mark as it is written. -/
def text : Mark → Text
  | absent => []
  | plus => literal "+"
  | minus => literal "-"

/-- Whether a mark turns the sum of a run around. -/
def isMinus : Mark → Bool
  | absent => false
  | plus => false
  | minus => true

theorem splitSign_text_append
    (mark : Mark)
    (run : List Term) :
    Numeral.splitSign (mark.text ++ written run) = (mark.isMinus, written run) := by
  cases mark with
  | absent => exact Numeral.splitSign_of_head_isDigit (head?_written run)
  | plus => rfl
  | minus => rfl

end Mark

variable {mark : Mark} {run : List Term} {duration : Duration}

theorem read_marked_eq_ok_iff :
    read (mark.text ++ written run) = .ok duration ↔
      IsInRange (amount run) ∧ duration.microseconds = factor mark.isMinus * amount run := by
  rw [read_eq_ok_iff_of_counted (mark.splitSign_text_append run) (fraction?_written run),
    addUp_counts_written, total_counts_written]

theorem read_marked_eq_overflow_iff :
    read (mark.text ++ written run) = .error .overflow ↔
      ¬ (IsInRange (amount run) ∧ IsInRange (factor mark.isMinus * amount run)) := by
  constructor
  · rintro failed ⟨sum, signed⟩
    have succeeded : read (mark.text ++ written run) = .ok ⟨_, signed.1, signed.2⟩ :=
      read_marked_eq_ok_iff.mpr ⟨sum, rfl⟩
    rw [failed] at succeeded
    contradiction
  · intro missed
    cases result : read (mark.text ++ written run) with
    | ok duration =>
        obtain ⟨sum, equal⟩ := read_marked_eq_ok_iff.mp result
        exact absurd ⟨sum, equal ▸ duration.isInRange⟩ missed
    | error fault =>
        rw [read_eq_error_of_counted (mark.splitSign_text_append run) (fraction?_written run)
          isLegible_of_mem_counts_written result]

/-- A run is read as the sum of its terms with the sign in front, if the sum is in range with the
sign and without it, and fails by its range otherwise. The order of the terms makes no difference.
-/
theorem read_marked (mark : Mark) (run : List Term) :
    (∀ duration, read (mark.text ++ written run) = .ok duration ↔
      (IsInRange (amount run) ∧ IsInRange (factor mark.isMinus * amount run)) ∧
        duration.microseconds = factor mark.isMinus * amount run) ∧
      (read (mark.text ++ written run) = .error .overflow ↔
        ¬ (IsInRange (amount run) ∧ IsInRange (factor mark.isMinus * amount run))) ∧
      ∀ other, other.Perm run →
        read (mark.text ++ written other) = read (mark.text ++ written run) := by
  refine ⟨fun duration => ?_, read_marked_eq_overflow_iff, fun other perm => ?_⟩
  · rw [read_marked_eq_ok_iff]
    constructor
    · rintro ⟨sum, equal⟩
      exact ⟨⟨sum, equal ▸ duration.isInRange⟩, equal⟩
    · rintro ⟨⟨sum, -⟩, equal⟩
      exact ⟨sum, equal⟩
  · have same := amount_eq_of_perm perm
    cases result : read (mark.text ++ written run) with
    | ok duration =>
        rw [read_marked_eq_ok_iff, same]
        exact read_marked_eq_ok_iff.mp result
    | error fault =>
        have overflow := read_eq_error_of_counted (mark.splitSign_text_append run)
          (fraction?_written run) isLegible_of_mem_counts_written result
        rw [overflow, read_marked_eq_overflow_iff, same]
        rw [overflow] at result
        exact read_marked_eq_overflow_iff.mp result

/-- Minutes, milliseconds and seconds, with a unit that occurs twice and zeros in front. -/
def mixedRun : List Term :=
  [⟨literal "5", .minute, by decide, List.all_eq_true.mp (by decide), by decide⟩,
    ⟨literal "05", .millisecond, by decide, List.all_eq_true.mp (by decide), by decide⟩,
    ⟨literal "5", .second, by decide, List.all_eq_true.mp (by decide), by decide⟩,
    ⟨literal "5", .minute, by decide, List.all_eq_true.mp (by decide), by decide⟩]

/-- The letters that the units share are told apart, and the run reads alike backwards. -/
theorem read_mixedRun :
    read (literal "-5m05ms5s5m") = .ok ⟨-605005000, by decide, by decide⟩ ∧
      read (literal "-5m5s05ms5m") = read (literal "-5m05ms5s5m") := by
  obtain ⟨succeeds, -, permutes⟩ := read_marked .minus mixedRun
  refine ⟨(succeeds _).mpr ⟨by decide, by decide⟩, ?_⟩
  exact permutes mixedRun.reverse mixedRun.reverse_perm

end Duration
end RouterApi
