import RouterApi.Proofs.Numeral
import RouterApi.Record.Converter

/-!
# The order of versions

A version that is written with one, two or three numbers is read as these, with zeros in place of
those that are missing. Versions are required to come up to a minimum in lexicographic order. A
minimum with more than three numbers is not compared as if the version went on with zeros, so some
versions are refused that equal the minimum or exceed it.
-/

namespace RouterApi
namespace Version

variable {content digits rest : Text} {number : Nat} {version : Version} {minimum : List Int}

/-! ## Reading -/

/-- Digits of any script, few enough for a number, and the number that they denote. -/
structure IsRun
    (digits : Text)
    (number : Nat) : Prop where
  nonempty : digits ≠ []
  decimal : ∀ point ∈ digits, point.isDigit = true
  few : digits.length ≤ Numeral.maximumDigits
  value : number = Text.digitsValue 10 (digits.filterMap CodePoint.digitValue?)

/-- The decimal form of a number is a run of digits. -/
theorem isRun_ofNat
    (few : (Text.ofNat number).length ≤ Numeral.maximumDigits) :
    IsRun (Text.ofNat number) number where
  nonempty := Text.ofNat_ne_nil number
  decimal _ := Text.isDigit_of_mem_ofNat
  few := few
  value := (Text.digitsValue_ofNat number).symm

/-- The numbers of a version as they are written, with points between them. -/
inductive Numbers : Text → Version → Prop
  | one
      {major : Text}
      {majorNumber : Nat}
      (majorRun : IsRun major majorNumber) :
      Numbers major ⟨majorNumber, 0, 0⟩
  | two
      {major minor : Text}
      {majorNumber minorNumber : Nat}
      (majorRun : IsRun major majorNumber)
      (minorRun : IsRun minor minorNumber) :
      Numbers (major ++ CodePoint.ofChar '.' :: minor) ⟨majorNumber, minorNumber, 0⟩
  | three
      {major minor patch : Text}
      {majorNumber minorNumber patchNumber : Nat}
      (majorRun : IsRun major majorNumber)
      (minorRun : IsRun minor minorNumber)
      (patchRun : IsRun patch patchNumber) :
      Numbers
        (major ++ CodePoint.ofChar '.' :: (minor ++ CodePoint.ofChar '.' :: patch))
        ⟨majorNumber, minorNumber, patchNumber⟩

/-- Whether a text neither begins with a digit nor with a point, so that no number goes on with it.
-/
def IsSuffix (suffix : Text) : Prop :=
  ∀ point ∈ suffix.head?, point.isDigit = false ∧ point ≠ CodePoint.ofChar '.'

/-- A text is a version if it consists of the numbers of the version, with white space around, and
with anything that does not go on with the numbers before the white space that follows. -/
inductive IsWritten : Text → Version → Prop
  | version
      {before numbers suffix after : Text}
      {version : Version}
      (blanks : ∀ point ∈ before, point.isBlank = true)
      (written : Numbers numbers version)
      (isSuffix : IsSuffix suffix)
      (moreBlanks : ∀ point ∈ after, point.isBlank = true) :
      IsWritten (before ++ numbers ++ suffix ++ after) version

theorem IsSuffix.append
    {suffix after : Text}
    (isSuffix : IsSuffix suffix)
    (blanks : ∀ point ∈ after, point.isBlank = true) :
    IsSuffix (suffix ++ after) := by
  cases suffix with
  | cons first rest => exact isSuffix
  | nil =>
      intro point head
      have blank := blanks point (List.mem_of_mem_head? head)
      refine ⟨?_, ?_⟩
      · rw [← Bool.not_eq_true]
        intro digit
        rw [CodePoint.isBlank_of_isDigit digit] at blank
        contradiction
      · rintro rfl
        exact absurd blank (by decide)

theorem component_of_isRun (run : IsRun digits number) : component digits = .ok number := by
  rw [component, if_neg (Nat.not_lt.mpr run.few), ← run.value]

theorem minorDigits_append
    (run : IsRun digits number)
    (ended : ∀ point ∈ rest.head?, point.isDigit = false) :
    minorDigits (CodePoint.ofChar '.' :: (digits ++ rest)) = (digits, rest) := by
  obtain ⟨first, more, rfl⟩ := List.exists_cons_of_ne_nil run.nonempty
  rw [minorDigits, Text.span_append run.decimal ended]
  rfl

theorem minorDigits_of_isSuffix (isSuffix : IsSuffix rest) : minorDigits rest = ([], rest) := by
  cases rest with
  | nil => rfl
  | cons first more => simp [minorDigits, (isSuffix first rfl).2]

theorem IsRun.isDigit_of_mem_head?
    (run : IsRun digits number)
    (after : Text) :
    ∀ point ∈ (digits ++ after).head?, point.isDigit = true := by
  obtain ⟨first, more, rfl⟩ := List.exists_cons_of_ne_nil run.nonempty
  rintro point ⟨⟩
  exact run.decimal _ List.mem_cons_self

theorem IsRun.isDigit_of_mem_getLast?
    (run : IsRun digits number)
    (before : Text) :
    ∀ point ∈ (before ++ digits).getLast?, point.isDigit = true := by
  intro point last
  rw [List.getLast?_append_of_ne_nil _ run.nonempty] at last
  exact run.decimal point (List.mem_of_mem_getLast? last)

/-- The numbers of a version begin and end with digits. -/
theorem Numbers.isDigit_of_mem_ends
    {numbers : Text}
    (written : Numbers numbers version) :
    (∀ point ∈ numbers.head?, point.isDigit = true) ∧
      ∀ point ∈ numbers.getLast?, point.isDigit = true := by
  cases written with
  | one majorRun =>
      have begins := majorRun.isDigit_of_mem_head? []
      rw [List.append_nil] at begins
      exact ⟨begins, majorRun.isDigit_of_mem_getLast? []⟩
  | two majorRun minorRun =>
      refine ⟨majorRun.isDigit_of_mem_head? _, ?_⟩
      rw [List.append_cons]
      exact minorRun.isDigit_of_mem_getLast? _
  | three majorRun minorRun patchRun =>
      refine ⟨majorRun.isDigit_of_mem_head? _, ?_⟩
      rw [List.append_cons, ← List.append_assoc, List.append_cons]
      exact patchRun.isDigit_of_mem_getLast? _

theorem Numbers.ne_nil
    {numbers : Text}
    (written : Numbers numbers version) :
    numbers ≠ [] := by
  cases written with
  | one majorRun => exact majorRun.nonempty
  | two | three => simp

/-- Numbers are read up to a text that does not go on with them. -/
theorem read_of_trim
    {numbers : Text}
    (written : Numbers numbers version)
    (isSuffix : IsSuffix rest)
    (trimmed : content.trim = numbers ++ rest) :
    read content = .ok version := by
  have ended : ∀ point ∈ rest.head?, point.isDigit = false := fun point head =>
    (isSuffix point head).1
  have endedByPoint : ∀ (later : Text), ∀ point ∈ (CodePoint.ofChar '.' :: later).head?,
      point.isDigit = false := by
    rintro later point ⟨⟩
    decide
  have noDigits : component [] = .ok 0 := rfl
  unfold read
  rw [trimmed]
  cases written with
  | one majorRun =>
      rw [Text.span_append majorRun.decimal ended]
      simp only [List.isEmpty_iff, majorRun.nonempty, if_false, minorDigits_of_isSuffix isSuffix,
        component_of_isRun majorRun, noDigits]
      rfl
  | two majorRun minorRun =>
      rw [List.append_assoc, List.cons_append,
        Text.span_append majorRun.decimal (endedByPoint _)]
      simp only [List.isEmpty_iff, majorRun.nonempty, if_false, minorDigits_append minorRun ended,
        minorDigits_of_isSuffix isSuffix, component_of_isRun majorRun, component_of_isRun minorRun,
        noDigits]
      rfl
  | three majorRun minorRun patchRun =>
      rw [List.append_assoc, List.cons_append, List.append_assoc, List.cons_append,
        Text.span_append majorRun.decimal (endedByPoint _)]
      simp only [List.isEmpty_iff, majorRun.nonempty, if_false,
        minorDigits_append minorRun (endedByPoint _), minorDigits_append patchRun ended,
        component_of_isRun majorRun, component_of_isRun minorRun, component_of_isRun patchRun]
      rfl

/-- What is written is read. -/
theorem read_of_isWritten (written : IsWritten content version) :
    read content = .ok version := by
  obtain ⟨blanks, numbers, isSuffix, moreBlanks⟩ := written
  rename_i before numbersText suffix after
  obtain ⟨begins, ends⟩ := numbers.isDigit_of_mem_ends
  obtain ⟨kept, ⟨dropped, whole⟩, trimmed⟩ := Text.exists_trimWhere_append blanks numbers.ne_nil
    (fun point head => CodePoint.isBlank_of_isDigit (begins point head))
    (fun point last => CodePoint.isBlank_of_isDigit (ends point last)) (suffix ++ after)
  refine read_of_trim numbers (fun point head => ?_) (by
    rw [List.append_assoc, List.append_assoc]
    exact trimmed)
  have further := isSuffix.append moreBlanks
  rw [← whole] at further
  refine further point ?_
  cases kept with
  | nil => cases head
  | cons first more => exact head

/-! ## Comparing -/

/-- Numbers with zeros in place of those that are missing. -/
def padTo
    (count : Nat)
    (numbers : List Int) : List Int :=
  numbers ++ List.replicate (count - numbers.length) 0

/-- A version precedes a minimum if it comes before it in lexicographic order, after the shorter of
the two is padded with zeros. -/
def Precedes
    (version : Version)
    (minimum : List Int) : Prop :=
  padTo minimum.length version.components < padTo version.components.length minimum

/-- A version is misjudged if the minimum goes on after the same three numbers, but not with numbers
that exceed zeros. -/
def IsMisjudged
    (version : Version)
    (minimum : List Int) : Prop :=
  ∃ rest, minimum = version.components ++ rest ∧ rest ≠ [] ∧ ¬ List.replicate rest.length 0 < rest

theorem append_lt_append_iff
    {first second firstRest secondRest : List Int}
    (same : first.length = second.length) :
    first ++ firstRest < second ++ secondRest ↔
      first < second ∨ first = second ∧ firstRest < secondRest := by
  induction first generalizing second with
  | nil =>
      cases List.eq_nil_of_length_eq_zero same.symm
      simp
  | cons number numbers inductionHypothesis =>
      cases second with
      | nil => contradiction
      | cons other others =>
          have equivalent := inductionHypothesis (Nat.succ.inj same)
          simp only [List.cons_append, List.cons_lt_cons_iff, equivalent, List.cons.injEq]
          tauto

theorem padTo_of_length_le
    {count : Nat}
    {numbers : List Int}
    (long : count ≤ numbers.length) :
    padTo count numbers = numbers := by
  rw [padTo, Nat.sub_eq_zero_of_le long, List.replicate_zero, List.append_nil]

section LongMinimum

variable {first : List Int} {further : List Int}

theorem precedes_append_iff (same : first.length = version.components.length) :
    version.Precedes (first ++ further) ↔
      version.components < first ∨
        version.components = first ∧ List.replicate further.length 0 < further := by
  have missing : (first ++ further).length - version.components.length = further.length := by
    rw [List.length_append, same, Nat.add_sub_cancel_left]
  have long : version.components.length ≤ (first ++ further).length := by
    rw [List.length_append, same]
    exact Nat.le_add_right _ _
  rw [Precedes, padTo_of_length_le long, padTo, missing, append_lt_append_iff same.symm]

theorem isMisjudged_append_iff (same : first.length = version.components.length) :
    version.IsMisjudged (first ++ further) ↔
      version.components = first ∧ further ≠ [] ∧ ¬ List.replicate further.length 0 < further := by
  constructor
  · rintro ⟨rest, whole, nonempty, notBelow⟩
    obtain ⟨rfl, rfl⟩ := List.append_inj whole same
    exact ⟨rfl, nonempty, notBelow⟩
  · rintro ⟨rfl, nonempty, notBelow⟩
    exact ⟨further, rfl, nonempty, notBelow⟩

theorem isBelow_append_iff
    (same : first.length = version.components.length)
    (nonempty : further ≠ []) :
    version.isBelow (first ++ further) = true ↔
      version.components < first ∨ version.components = first := by
  have long : version.components.length ≤ (first ++ further).length := by
    rw [List.length_append, same]
    exact Nat.le_add_right _ _
  have exceeds : ([] : List Int) < further := by
    obtain ⟨number, more, rfl⟩ := List.exists_cons_of_ne_nil nonempty
    exact List.nil_lt_cons number more
  have compared : version.components ++ [] < first ++ further ↔ _ :=
    append_lt_append_iff same.symm
  rw [List.append_nil] at compared
  rw [isBelow, decide_eq_true_eq]
  show version.components < padTo version.components.length (first ++ further) ↔ _
  rw [padTo_of_length_le long, compared, and_iff_left exceeds]

end LongMinimum

/-- The comparison that is made differs from the order for misjudged versions. -/
theorem isBelow_iff :
    version.isBelow minimum = true ↔ version.Precedes minimum ∨ version.IsMisjudged minimum := by
  have three : version.components.length = 3 := rfl
  by_cases short : minimum.length ≤ 3
  · have notMisjudged : ¬ version.IsMisjudged minimum := by
      rintro ⟨rest, rfl, nonempty, -⟩
      rw [List.length_append, three] at short
      exact nonempty (List.eq_nil_of_length_eq_zero (by omega))
    rw [isBelow, decide_eq_true_eq, Precedes, padTo_of_length_le (three ▸ short),
      or_iff_left notMisjudged]
    rfl
  · have same : (minimum.take 3).length = version.components.length := by
      rw [List.length_take, three]
      omega
    have nonempty : minimum.drop 3 ≠ [] := by
      rw [ne_eq, List.drop_eq_nil_iff]
      exact short
    rw [← List.take_append_drop 3 minimum, isBelow_append_iff same nonempty,
      precedes_append_iff same, isMisjudged_append_iff same]
    tauto

theorem not_precedes_of_isMisjudged (misjudged : version.IsMisjudged minimum) :
    ¬ version.Precedes minimum := by
  obtain ⟨further, rfl, -, notBelow⟩ := misjudged
  rw [precedes_append_iff rfl]
  rintro (below | ⟨-, below⟩)
  · exact List.lt_irrefl _ below
  · exact notBelow below

/-! ## Requiring -/

/-- A minimum is required of a version if exactly the versions that precede it are refused, and all
others are accepted. -/
def IsRequired
    (content : Text)
    (version : Version)
    (minimum : List Int) : Prop :=
  (requireVersion (.text content) minimum = .ok () ↔ ¬ version.Precedes minimum) ∧
    ((∃ error, requireVersion (.text content) minimum = .error error ∧
        error.kind = .versionTooOld) ↔ version.Precedes minimum)

theorem isWritable_int_iff {wanted : Int} :
    (Value.int wanted).isWritable = true ↔ wanted.natAbs < 10 ^ Numeral.maximumDigits := by
  rw [Value.isWritable, Binary64.tenTo, Nat.pow_eq, decide_eq_true_eq]

theorem isWritable_padMinimum
    (few : ∀ wanted ∈ minimum, wanted.natAbs < 10 ^ Numeral.maximumDigits) :
    ((padMinimum minimum).all fun part => (Value.int part).isWritable) = true := by
  have positive : 0 < 10 ^ Numeral.maximumDigits := Nat.pow_pos (Nat.zero_lt_succ 9)
  rw [List.all_eq_true]
  intro part member
  rw [isWritable_int_iff]
  rcases List.mem_append.mp member with given | missing
  · exact few part given
  · rwa [List.eq_of_mem_replicate missing, Int.natAbs_zero]

/-- What is required of a version that is written. -/
theorem requireVersion_of_isWritten
    (written : IsWritten content version)
    (few : ∀ wanted ∈ minimum, wanted.natAbs < 10 ^ Numeral.maximumDigits) :
    requireVersion (.text content) minimum =
      if version.isBelow minimum then
        .error (.versionTooOld content.trim (padMinimum minimum))
      else .ok () := by
  have read : Converter.versionOf content = .ok version := by
    rw [Converter.versionOf, read_of_isWritten written]
  simp only [requireVersion, Value.asText, read, isWritable_padMinimum few, if_true]

/-- A version that is written is read, and a minimum is required of it unless it is misjudged. -/
theorem isRequired_iff_not_isMisjudged
    (written : IsWritten content version)
    (few : ∀ wanted ∈ minimum, wanted.natAbs < 10 ^ Numeral.maximumDigits) :
    Converter.readVersion.apply (.text content) = .ok (.version version) ∧
      (IsRequired content version minimum ↔ ¬ version.IsMisjudged minimum) := by
  have applied : Converter.readVersion.apply (.text content) = .ok (.version version) := by
    show (Converter.versionOf content).map Value.version = _
    rw [Converter.versionOf, read_of_isWritten written]
    rfl
  refine ⟨applied, ?_⟩
  have tooOld : (Error.versionTooOld content.trim (padMinimum minimum)).kind = .versionTooOld := rfl
  have below : version.isBelow minimum = true ↔ _ := isBelow_iff
  rw [IsRequired, requireVersion_of_isWritten written few]
  by_cases misjudged : version.IsMisjudged minimum
  · have notBefore := not_precedes_of_isMisjudged misjudged
    simp [below.mpr (.inr misjudged), misjudged, notBefore, tooOld]
  · rw [or_iff_left misjudged] at below
    by_cases before : version.Precedes minimum
    · simp [below.mpr before, misjudged, before, tooOld]
    · have notBelow : version.isBelow minimum = false :=
        Bool.eq_false_iff.mpr (mt below.mp before)
      simp [notBelow, misjudged, before]

theorem isWritten_stable : IsWritten (literal " 7.18.2 (stable)") ⟨7, 18, 2⟩ := by
  have major : IsRun (literal "7") 7 := @isRun_ofNat 7 (by decide)
  have minor : IsRun (literal "18") 18 := @isRun_ofNat 18 (by decide)
  have patch : IsRun (literal "2") 2 := @isRun_ofNat 2 (by decide)
  have isSuffix : IsSuffix (literal " (stable)") := by
    rintro point ⟨⟩
    decide
  have blank : ∀ point ∈ literal " ", point.isBlank = true := List.all_eq_true.mp (by decide)
  have noBlank : ∀ point ∈ literal "", point.isBlank = true := List.all_eq_true.mp (by decide)
  exact .version blank (.three major minor patch) isSuffix noBlank

theorem few_of_lt_hundred
    (small : ∀ wanted ∈ minimum, wanted.natAbs < 100) :
    ∀ wanted ∈ minimum, wanted.natAbs < 10 ^ Numeral.maximumDigits := by
  intro wanted member
  have hundred : 10 ^ 2 ≤ 10 ^ Numeral.maximumDigits :=
    Nat.pow_le_pow_right (by decide) (by decide)
  exact Nat.lt_of_lt_of_le (small wanted member) hundred

/-- A minimum with two numbers is required of this version. One with four is not, although the
fourth is zero. -/
theorem isRequired_stable :
    Converter.readVersion.apply (.text (literal " 7.18.2 (stable)")) =
        .ok (.version ⟨7, 18, 2⟩) ∧
      IsRequired (literal " 7.18.2 (stable)") ⟨7, 18, 2⟩ [6, 45] ∧
      ¬ IsRequired (literal " 7.18.2 (stable)") ⟨7, 18, 2⟩ [7, 18, 2, 0] := by
  have short : ∀ wanted ∈ ([6, 45] : List Int), wanted.natAbs < 100 := by decide
  have long : ∀ wanted ∈ ([7, 18, 2, 0] : List Int), wanted.natAbs < 100 := by decide
  obtain ⟨applied, required⟩ :=
    isRequired_iff_not_isMisjudged isWritten_stable (few_of_lt_hundred short)
  obtain ⟨-, missed⟩ := isRequired_iff_not_isMisjudged isWritten_stable (few_of_lt_hundred long)
  refine ⟨applied, required.mpr ?_, ?_⟩
  · rintro ⟨further, whole, -⟩
    cases whole
  · rw [missed, not_not]
    exact ⟨[0], rfl, by decide, by decide⟩

/-- Not every minimum is required: one that goes on with a zero refuses the version that equals it.
-/
theorem not_forall_isRequired :
    ¬ ∀ content version minimum, IsWritten content version →
      (∀ wanted ∈ minimum, wanted.natAbs < 10 ^ Numeral.maximumDigits) →
        IsRequired content version minimum := by
  intro isRequired
  have few := few_of_lt_hundred (show ∀ wanted ∈ ([7, 18, 2, 0] : List Int), wanted.natAbs < 100 by
    decide)
  obtain ⟨accepted, -⟩ := isRequired _ _ _ isWritten_stable few
  have notBefore : ¬ Precedes ⟨7, 18, 2⟩ [7, 18, 2, 0] := by
    unfold Precedes
    decide
  have below : isBelow ⟨7, 18, 2⟩ [7, 18, 2, 0] = true := by decide
  have refused := requireVersion_of_isWritten isWritten_stable few
  rw [accepted.mpr notBefore, if_pos below] at refused
  cases refused

end Version
end RouterApi
