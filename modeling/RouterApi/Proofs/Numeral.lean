import Mathlib.Data.List.Induction
import RouterApi.Proofs.Decimal
import RouterApi.Proofs.Text

/-!
# Integers

What a text must be to denote an integer: digits of any script, with single underscores between
them, after an optional sign and with blanks around. Reading finds out exactly this, and the decimal
form of a number is read back as the number.
-/

namespace RouterApi

namespace CodePoint

theorem mem_decimalZeros_of_digitValue?
    {point : CodePoint}
    {value : Nat}
    (digit : point.digitValue? = some value) :
    ∃ first ∈ decimalZeros, point.val = first + value ∧ value < 10 := by
  obtain ⟨first, found, rfl⟩ := Option.map_eq_some_iff.mp digit
  have range := List.find?_some found
  simp only [Bool.and_eq_true, decide_eq_true_eq] at range
  exact ⟨first, List.mem_of_find?_eq_some found, by omega, by omega⟩

/-- No digit is a blank. -/
theorem isBlank_of_isDigit
    {point : CodePoint}
    (digit : point.isDigit = true) :
    point.isBlank = false := by
  obtain ⟨value, digit⟩ := Option.isSome_iff_exists.mp digit
  obtain ⟨first, member, equal, small⟩ := mem_decimalZeros_of_digitValue? digit
  have distant : ∀ first ∈ decimalZeros, ∀ value < 10,
      isBlank (Fin.ofNat 0x110000 (first + value)) = false := by
    decide +kernel
  have same : point = Fin.ofNat 0x110000 (first + value) := by
    rw [← equal]
    exact Fin.ext (Nat.mod_eq_of_lt point.isLt).symm
  rw [same]
  exact distant first member value small

theorem isNumberBlank_of_isDigit
    {point : CodePoint}
    (digit : point.isDigit = true) :
    point.isNumberBlank = false := by
  rw [isNumberBlank, isBlank_of_isDigit digit, Bool.false_and]

/-- The hexadecimal digits below ten are decimal digits. -/
theorem digitValue?_of_hexValue?
    {point : CodePoint}
    {value : Nat}
    (hex : point.hexValue? = some value)
    (small : value < 10) :
    point.digitValue? = some value := by
  have range : 0x30 ≤ point.val ∧ point.val ≤ 0x39 ∧ value = point.val - 0x30 := by
    simp only [hexValue?] at hex
    grind
  have found : decimalZeros.find? (fun first => first ≤ point.val && point.val < first + 10) =
      some 0x30 := by
    refine List.find?_cons_of_pos ?_
    simp only [Bool.and_eq_true, decide_eq_true_eq]
    omega
  rw [digitValue?, found, Option.map_some, range.2.2]

end CodePoint

namespace Numeral

variable {base : Nat} {content : Text} {values : List Nat}

/-- In decimal, the digits are those of the scripts. -/
theorem digitIn?_ten (point : CodePoint) : digitIn? 10 point = point.digitValue? := by
  unfold digitIn?
  cases digit : point.digitValue? with
  | some value =>
      obtain ⟨-, -, -, small⟩ := CodePoint.mem_decimalZeros_of_digitValue? digit
      simp [small]
  | none =>
      rw [Option.none_or]
      cases hex : point.hexValue? with
      | none => rfl
      | some value =>
          have large : ¬ value < 10 := fun small => by
            rw [CodePoint.digitValue?_of_hexValue? hex small] at digit
            cases digit
          simp [large]

theorem digitIn?_underscore (base : Nat) : digitIn? base (CodePoint.ofChar '_') = none := by
  rfl

theorem isDigit_of_digitIn?
    {point : CodePoint}
    {value : Nat}
    (digit : digitIn? 10 point = some value) :
    point.isDigit = true := by
  rw [digitIn?_ten] at digit
  exact Option.isSome_of_eq_some digit

/-! ## Digits -/

/-- Digits, with at most one underscore between any two of them, and their values. -/
inductive IsGrouped (base : Nat) : Text → List Nat → Prop
  | single
      {point : CodePoint}
      {value : Nat}
      (digit : digitIn? base point = some value) :
      IsGrouped base [point] [value]
  | next
      {content : Text}
      {values : List Nat}
      {point : CodePoint}
      {value : Nat}
      (earlier : IsGrouped base content values)
      (digit : digitIn? base point = some value) :
      IsGrouped base (content ++ [point]) (values ++ [value])
  | separated
      {content : Text}
      {values : List Nat}
      {point : CodePoint}
      {value : Nat}
      (earlier : IsGrouped base content values)
      (digit : digitIn? base point = some value) :
      IsGrouped base (content ++ [CodePoint.ofChar '_', point]) (values ++ [value])

theorem IsGrouped.ne_nil (grouped : IsGrouped base content values) : values ≠ [] := by
  cases grouped <;> simp

theorem spanDigitsOnto_digit
    {point : CodePoint}
    {value : Nat}
    (digit : digitIn? base point = some value)
    (read : List Nat)
    (rest : Text) :
    spanDigitsOnto base read (point :: rest) = spanDigitsOnto base (value :: read) rest := by
  conv_lhs => unfold spanDigitsOnto
  simp only [digit]

theorem spanDigitsOnto_separated
    {point : CodePoint}
    {value : Nat}
    {read : List Nat}
    (digit : digitIn? base point = some value)
    (started : read ≠ [])
    (rest : Text) :
    spanDigitsOnto base read (CodePoint.ofChar '_' :: point :: rest) =
      spanDigitsOnto base (value :: read) rest := by
  obtain ⟨last, more, rfl⟩ := List.exists_cons_of_ne_nil started
  conv_lhs => unfold spanDigitsOnto
  simp [digitIn?_underscore, isChar, digit]

/-- Digits in front are read first. -/
theorem IsGrouped.spanDigitsOnto_append
    (grouped : IsGrouped base content values)
    (rest : Text) :
    spanDigitsOnto base [] (content ++ rest) = spanDigitsOnto base values.reverse rest := by
  induction grouped generalizing rest with
  | single digit => exact spanDigitsOnto_digit digit [] rest
  | next earlier digit inductionHypothesis =>
      rw [List.append_assoc, inductionHypothesis, List.reverse_append]
      exact spanDigitsOnto_digit digit _ rest
  | separated earlier digit inductionHypothesis =>
      rw [List.append_assoc, inductionHypothesis, List.reverse_append]
      exact spanDigitsOnto_separated digit (mt List.reverse_eq_nil_iff.mp earlier.ne_nil) rest

/-- What is read to the end are digits that follow those read before. -/
theorem isGrouped_of_spanDigitsOnto
    {before : Text}
    {read : List Nat}
    (grouped : IsGrouped base before read.reverse)
    (whole : spanDigitsOnto base read content = some (values, [])) :
    IsGrouped base (before ++ content) values := by
  fun_induction spanDigitsOnto base read content generalizing before with
  | case1 read =>
      cases whole
      rwa [List.append_nil]
  | case2 read point rest value digit inductionHypothesis =>
      have further := IsGrouped.next grouped digit
      rw [← List.reverse_cons] at further
      have result := inductionHypothesis further whole
      rwa [List.append_assoc] at result
  | case3 point noDigit underscore last more next later value digit inductionHypothesis =>
      obtain rfl : point = CodePoint.ofChar '_' := eq_of_beq underscore
      have further := IsGrouped.separated grouped digit
      rw [← List.reverse_cons] at further
      have result := inductionHypothesis further whole
      rwa [List.append_assoc] at result
  | case4 | case5 | case6 => cases whole

/-- A whole text is digits exactly if they are read to its end. -/
theorem spanDigits_eq_some_iff (nonempty : values ≠ []) :
    spanDigits base content = some (values, []) ↔ IsGrouped base content values := by
  constructor
  · intro whole
    cases content with
    | nil =>
        cases whole
        contradiction
    | cons point rest =>
        cases digit : digitIn? base point with
        | some value =>
            rw [spanDigits, spanDigitsOnto_digit digit] at whole
            exact isGrouped_of_spanDigitsOnto (IsGrouped.single digit) whole
        | none =>
            simp only [spanDigits, spanDigitsOnto, digit] at whole
            split at whole <;> cases whole
  · intro grouped
    have whole := grouped.spanDigitsOnto_append []
    rw [List.append_nil] at whole
    rw [spanDigits, whole, spanDigitsOnto, List.reverse_reverse]

/-- Digits are read exactly if they are not too many. -/
theorem readDigits_eq_ok_iff
    {limit : Option Nat}
    {number : Nat} :
    readDigits base limit content = .ok number ↔
      ∃ values, IsGrouped base content values ∧ (∀ most ∈ limit, values.length ≤ most) ∧
        number = Text.digitsValue base values := by
  constructor
  · intro result
    unfold readDigits at result
    cases spanned : spanDigits base content with
    | none => simp [spanned] at result
    | some parts =>
        obtain ⟨digits, rest⟩ := parts
        cases digits with
        | nil => simp [spanned] at result
        | cons first more =>
            simp only [spanned] at result
            split at result
            · cases result
            · rename_i few
              split at result
              · rename_i ended
                cases result
                cases List.isEmpty_iff.mp ended
                refine ⟨first :: more,
                  (spanDigits_eq_some_iff (List.cons_ne_nil first more)).mp spanned, ?_, rfl⟩
                rintro most rfl
                simpa using few
              · cases result
  · rintro ⟨values, grouped, few, rfl⟩
    have spanned := (spanDigits_eq_some_iff grouped.ne_nil).mpr grouped
    obtain ⟨first, more, rfl⟩ := List.exists_cons_of_ne_nil grouped.ne_nil
    cases limit with
    | none => simp [readDigits, spanned]
    | some most =>
        have short := few most rfl
        rw [List.length_cons] at short
        simpa [readDigits, spanned] using short

/-! ## Integers -/

/-- The sign of an integer, which may be left out. -/
inductive Sign
  | absent
  | plus
  | minus

namespace Sign

/-- A sign as it is written. -/
def written : Sign → Text
  | absent => []
  | plus => [CodePoint.ofChar '+']
  | minus => [CodePoint.ofChar '-']

/-- Whether a sign makes a number negative. -/
def isMinus : Sign → Bool
  | absent | plus => false
  | minus => true

end Sign

/-- A text denotes an integer if it is a sign and digits with blanks around. -/
inductive Denotes : Text → Int → Prop
  | integer
      {before digits after : Text}
      {values : List Nat}
      (sign : Sign)
      (blanks : ∀ point ∈ before, point.isNumberBlank = true)
      (moreBlanks : ∀ point ∈ after, point.isNumberBlank = true)
      (grouped : IsGrouped 10 digits values)
      (few : values.length ≤ maximumDigits) :
      Denotes (before ++ (sign.written ++ digits) ++ after)
        (signed sign.isMinus (Text.digitsValue 10 values))

theorem exists_splitSign_eq (content : Text) :
    ∃ (sign : Sign) (body : Text),
      splitSign content = (sign.isMinus, body) ∧ content = sign.written ++ body := by
  cases content with
  | nil => exact ⟨.absent, [], rfl, rfl⟩
  | cons point rest =>
      by_cases minus : isChar '-' point = true
      · cases eq_of_beq minus
        exact ⟨.minus, rest, rfl, rfl⟩
      · by_cases plus : isChar '+' point = true
        · cases eq_of_beq plus
          exact ⟨.plus, rest, rfl, rfl⟩
        · exact ⟨.absent, point :: rest, by simp [splitSign, minus, plus, Sign.isMinus], rfl⟩

/-- A text without a sign in front is left as it is. -/
theorem splitSign_of_head_isDigit
    (starts : ∀ point ∈ content.head?, point.isDigit = true) :
    splitSign content = (false, content) := by
  cases content with
  | nil => rfl
  | cons point rest =>
      have digit := starts point rfl
      have noMinus : isChar '-' point = false :=
        beq_false_of_ne (CodePoint.ne_of_isDigit digit (by decide))
      have noPlus : isChar '+' point = false :=
        beq_false_of_ne (CodePoint.ne_of_isDigit digit (by decide))
      simp [splitSign, noMinus, noPlus]

theorem splitSign_append
    (sign : Sign)
    (starts : ∀ point ∈ content.head?, point.isDigit = true) :
    splitSign (sign.written ++ content) = (sign.isMinus, content) := by
  cases sign with
  | absent => exact splitSign_of_head_isDigit starts
  | plus | minus => rfl

/-- Digits begin with a digit. -/
theorem IsGrouped.exists_eq_cons
    (grouped : IsGrouped 10 content values) :
    ∃ first rest, content = first :: rest ∧ first.isDigit = true := by
  induction grouped with
  | @single point _ digit => exact ⟨point, [], rfl, isDigit_of_digitIn? digit⟩
  | next _ _ inductionHypothesis | separated _ _ inductionHypothesis =>
      obtain ⟨first, rest, rfl, isDigit⟩ := inductionHypothesis
      exact ⟨first, _, rfl, isDigit⟩

/-- Digits end with a digit. -/
theorem IsGrouped.isDigit_of_mem_getLast?
    (grouped : IsGrouped 10 content values) :
    ∀ point ∈ content.getLast?, point.isDigit = true := by
  cases grouped with
  | single digit | next _ digit | separated _ digit =>
      intro point last
      simp only [List.getLast?_append, List.getLast?_singleton, List.getLast?_cons_cons,
        Option.mem_def, Option.some_or, Option.some.injEq] at last
      exact last ▸ isDigit_of_digitIn? digit

/-- An integer is read exactly if the text denotes one. -/
theorem readInt_eq_ok_iff
    {number : Int} :
    readInt content = .ok number ↔ Denotes content number := by
  constructor
  · intro result
    obtain ⟨before, after, whole, blanks, moreBlanks⟩ :=
      Text.exists_eq_append_trimWhere CodePoint.isNumberBlank content
    obtain ⟨sign, body, split, trimmed⟩ :=
      exists_splitSign_eq (content.trimWhere CodePoint.isNumberBlank)
    simp only [readInt, split] at result
    cases read : readDigits 10 (some maximumDigits) body with
    | error fault => simp [read, Except.map] at result
    | ok magnitude =>
        rw [read] at result
        cases result
        obtain ⟨values, grouped, few, rfl⟩ := readDigits_eq_ok_iff.mp read
        rw [whole, trimmed]
        exact .integer sign blanks moreBlanks grouped (few _ rfl)
  · rintro ⟨sign, blanks, moreBlanks, grouped, few⟩
    rename_i before digits after values
    obtain ⟨first, rest, rfl, isDigit⟩ := grouped.exists_eq_cons
    have starts : ∀ point ∈ (first :: rest).head?, point.isDigit = true := by
      rintro point ⟨⟩
      exact isDigit
    have trimmed : Text.trimWhere CodePoint.isNumberBlank
        (before ++ (sign.written ++ first :: rest) ++ after) = sign.written ++ first :: rest := by
      refine Text.trimWhere_append blanks moreBlanks (by simp) ?_ ?_
      · intro point head
        cases sign with
        | absent => exact CodePoint.isNumberBlank_of_isDigit (starts point head)
        | plus | minus =>
            cases head
            decide
      · intro point last
        rw [List.getLast?_append_of_ne_nil _ (List.cons_ne_nil first rest)] at last
        exact CodePoint.isNumberBlank_of_isDigit (grouped.isDigit_of_mem_getLast? point last)
    have read : readDigits 10 (some maximumDigits) (first :: rest) =
        .ok (Text.digitsValue 10 values) :=
      readDigits_eq_ok_iff.mpr ⟨values, grouped, by rintro most ⟨⟩; exact few, rfl⟩
    simp only [readInt, trimmed, splitSign_append sign starts, read]
    rfl

/-! ## Decimal forms -/

theorem isGrouped_of_isDigit
    (nonempty : content ≠ [])
    (decimal : ∀ point ∈ content, point.isDigit = true) :
    IsGrouped 10 content (content.filterMap CodePoint.digitValue?) := by
  induction content using List.reverseRecOn with
  | nil => contradiction
  | append_singleton earlier point inductionHypothesis =>
      obtain ⟨value, digit⟩ := Option.isSome_iff_exists.mp (decimal point (by simp))
      have found : digitIn? 10 point = some value := (digitIn?_ten point).trans digit
      rw [List.filterMap_append, List.filterMap_cons_some digit, List.filterMap_nil]
      cases earlier with
      | nil => exact .single found
      | cons first rest =>
          exact .next (inductionHypothesis (List.cons_ne_nil first rest) fun other member =>
            decimal other (List.mem_append_left _ member)) found

/-- The decimal form of a number is read back as the number. -/
theorem readInt_ofNat
    {number : Nat}
    (few : (Text.ofNat number).length ≤ maximumDigits) :
    readInt (Text.ofNat number) = .ok number := by
  have grouped := isGrouped_of_isDigit (Text.ofNat_ne_nil number) fun _ member =>
    Text.isDigit_of_mem_ofNat member
  have noBlanks : ∀ point ∈ ([] : Text), point.isNumberBlank = true := by simp
  have denotes := Denotes.integer .absent noBlanks noBlanks grouped
    ((List.length_filterMap_le _ _).trans few)
  rw [Text.digitsValue_ofNat, List.append_nil] at denotes
  exact readInt_eq_ok_iff.mpr denotes

end Numeral
end RouterApi
