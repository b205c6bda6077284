import Mathlib.Data.List.TakeDrop
import Mathlib.Data.List.TakeWhile
import RouterApi.Text.Blank

/-!
# Parts of texts

Where a text is cut: at the first occurrence of a code point, where a run of a class of code points
ends, and where the blanks around it end.
-/

namespace RouterApi
namespace Text

variable {separator : CodePoint} {content before after : Text} {inside : CodePoint → Bool}

/-! ## Runs -/

/-- A run of a class is split off where it ends. -/
theorem span_append
    (within : ∀ point ∈ before, inside point = true)
    (ended : ∀ point ∈ after.head?, inside point = false) :
    (before ++ after).span inside = (before, after) := by
  rw [List.span_eq_takeWhile_dropWhile, List.takeWhile_append_of_pos within,
    List.dropWhile_append_of_pos within]
  cases after with
  | nil => simp
  | cons point later =>
      have outside : ¬ inside point = true := by
        rw [ended point rfl]
        decide
      rw [List.takeWhile_cons_of_neg outside, List.dropWhile_cons_of_neg outside, List.append_nil]

/-! ## Separators -/

theorem splitAtFirst?_append
    (absent : separator ∉ before)
    (after : Text) :
    splitAtFirst? separator (before ++ separator :: after) = some (before, after) := by
  have others : ∀ point ∈ before, (point != separator) = true := by
    intro point member
    rw [bne_iff_ne]
    rintro rfl
    exact absent member
  have spanned : (before ++ separator :: after).span (· != separator) =
      (before, separator :: after) :=
    span_append others (by simp)
  simp only [splitAtFirst?, spanned]

theorem splitAtFirst?_of_not_mem (absent : separator ∉ content) :
    splitAtFirst? separator content = none := by
  have others : ∀ point ∈ content, (point != separator) = true := by
    intro point member
    rw [bne_iff_ne]
    rintro rfl
    exact absent member
  have spanned : content.span (· != separator) = (content, []) := by
    have spanned := span_append others (show ∀ point ∈ ([] : Text).head?, _ by simp)
    rwa [List.append_nil] at spanned
  simp only [splitAtFirst?, spanned]

/-- Every text has a separator in it, which is somewhere first, or has none. -/
theorem exists_eq_append_or_not_mem
    (separator : CodePoint)
    (content : Text) :
    (∃ before after, content = before ++ separator :: after ∧ separator ∉ before) ∨
      separator ∉ content := by
  by_cases present : separator ∈ content
  · obtain ⟨before, after, whole, absent⟩ := List.eq_append_cons_of_mem present
    exact .inl ⟨before, after, whole, absent⟩
  · exact .inr present

/-- A text is split where the separator first stands. -/
theorem splitAtFirst?_eq_some_iff :
    splitAtFirst? separator content = some (before, after) ↔
      content = before ++ separator :: after ∧ separator ∉ before := by
  constructor
  · intro found
    rcases exists_eq_append_or_not_mem separator content with ⟨first, rest, rfl, absent⟩ | absent
    · rw [splitAtFirst?_append absent] at found
      cases found
      exact ⟨rfl, absent⟩
    · rw [splitAtFirst?_of_not_mem absent] at found
      cases found
  · rintro ⟨rfl, absent⟩
    exact splitAtFirst?_append absent after

/-! ## Blanks -/

/-- Blanks are dropped from around a text that neither begins nor ends with one. -/
theorem trimWhere_append
    (blanks : ∀ point ∈ before, inside point = true)
    (moreBlanks : ∀ point ∈ after, inside point = true)
    (nonempty : content ≠ [])
    (begins : ∀ point ∈ content.head?, inside point = false)
    (ends : ∀ point ∈ content.getLast?, inside point = false) :
    trimWhere inside (before ++ content ++ after) = content := by
  have kept : ∀ {text : Text}, (∀ point ∈ text.head?, inside point = false) →
      text.dropWhile inside = text := by
    intro text outside
    cases text with
    | nil => rfl
    | cons point rest =>
        rw [List.dropWhile_cons_of_neg]
        simpa using outside point rfl
  have fromFront : (before ++ content ++ after).dropWhile inside = content ++ after := by
    rw [List.append_assoc, List.dropWhile_append_of_pos blanks]
    refine kept fun point head => begins point ?_
    cases content with
    | nil => contradiction
    | cons first rest => exact head
  have fromBack : (content ++ after).reverse.dropWhile inside = content.reverse := by
    rw [List.reverse_append, List.dropWhile_append_of_pos fun point member =>
      moreBlanks point (List.mem_reverse.mp member)]
    refine kept fun point head => ends point ?_
    rwa [List.head?_reverse] at head
  rw [trimWhere, fromFront, fromBack, List.reverse_reverse]

/-- What follows a text that does not end with a blank is trimmed at its end only. -/
theorem exists_trimWhere_append
    (blanks : ∀ point ∈ before, inside point = true)
    (nonempty : content ≠ [])
    (begins : ∀ point ∈ content.head?, inside point = false)
    (ends : ∀ point ∈ content.getLast?, inside point = false)
    (after : Text) :
    ∃ kept, kept <+: after ∧ trimWhere inside (before ++ (content ++ after)) = content ++ kept := by
  let kept := (after.reverse.dropWhile inside).reverse
  let dropped := (after.reverse.takeWhile inside).reverse
  have whole : kept ++ dropped = after := by
    rw [← List.reverse_append, List.takeWhile_append_dropWhile, List.reverse_reverse]
  refine ⟨kept, ⟨dropped, whole⟩, ?_⟩
  have parts : before ++ (content ++ after) = before ++ (content ++ kept) ++ dropped := by
    rw [← whole]
    simp only [List.append_assoc]
  rw [parts]
  refine trimWhere_append blanks (fun point member => ?_) (by simp [nonempty]) ?_ ?_
  · exact List.mem_takeWhile_imp (List.mem_reverse.mp member)
  · intro point head
    cases content with
    | nil => contradiction
    | cons first rest => exact begins point head
  · intro point last
    rw [List.getLast?_append] at last
    cases keptLast : kept.getLast? with
    | none =>
        rw [keptLast, Option.none_or] at last
        exact ends point last
    | some other =>
        rw [keptLast, Option.some_or, Option.mem_def, Option.some.injEq] at last
        subst last
        rw [List.getLast?_reverse] at keptLast
        have outside := List.head?_dropWhile_not inside after.reverse
        rw [keptLast] at outside
        simpa using outside

/-- Every text is what is left of it with blanks around. -/
theorem exists_eq_append_trimWhere
    (inside : CodePoint → Bool)
    (content : Text) :
    ∃ before after, content = before ++ trimWhere inside content ++ after ∧
      (∀ point ∈ before, inside point = true) ∧ ∀ point ∈ after, inside point = true := by
  let body := content.dropWhile inside
  refine ⟨content.takeWhile inside, (body.reverse.takeWhile inside).reverse, ?_,
    fun point member => List.mem_takeWhile_imp member,
    fun point member => List.mem_takeWhile_imp (List.mem_reverse.mp member)⟩
  rw [trimWhere, List.append_assoc, ← List.reverse_append, List.takeWhile_append_dropWhile,
    List.reverse_reverse, List.takeWhile_append_dropWhile]

end Text
end RouterApi
