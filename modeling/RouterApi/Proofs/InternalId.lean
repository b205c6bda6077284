import RouterApi.Proofs.Hex
import RouterApi.Record.Converter

/-!
# Recognizing internal identifiers

An internal identifier is an asterisk and one to eight hexadecimal digits. All identifiers are
recognized, but not they alone: a text with one line end after an identifier is taken for one too.
All other texts are refused.
-/

namespace RouterApi
namespace InternalId

variable {content identifier : Text}

/-- The internal identifiers: an asterisk, and one to eight hexadecimal digits of ASCII, each in
either letter case. -/
inductive IsWritten : Text → Prop
  | intro {digits : Text}
      (nonempty : digits ≠ [])
      (few : digits.length ≤ 8)
      (hexadecimal : ∀ digit ∈ digits, digit ∈ CodePoint.hexDigits) :
      IsWritten (CodePoint.ofChar '*' :: digits)

/-- A text is terminated if it is an identifier with one line end after it. -/
def IsTerminated (content : Text) : Prop :=
  ∃ identifier, IsWritten identifier ∧ content = identifier ++ [CodePoint.ofChar '\n']

theorem IsWritten.lineEnd_not_mem (written : IsWritten identifier) :
    CodePoint.ofChar '\n' ∉ identifier := by
  obtain ⟨-, -, hexadecimal⟩ := written
  have noMark : CodePoint.ofChar '\n' ≠ CodePoint.ofChar '*' := by decide
  have noDigit : CodePoint.ofChar '\n' ∉ CodePoint.hexDigits := by decide
  exact List.not_mem_cons_of_ne_of_not_mem noMark fun member => noDigit (hexadecimal _ member)

/-- A line end is no part of an identifier. -/
theorem IsTerminated.not_isWritten (terminated : IsTerminated content) : ¬ IsWritten content := by
  obtain ⟨identifier, -, rfl⟩ := terminated
  intro written
  exact written.lineEnd_not_mem (List.mem_append_right identifier List.mem_cons_self)

/-! ## Recognition -/

/-- One line end is dropped where a text ends with one. -/
theorem dropLineEnd_append (content : Text) :
    dropLineEnd (content ++ [CodePoint.ofChar '\n']) = content := by
  rw [dropLineEnd, List.getLast?_concat, if_pos rfl, List.dropLast_concat]

theorem dropLineEnd_of_not_mem (absent : CodePoint.ofChar '\n' ∉ content) :
    dropLineEnd content = content := by
  rw [dropLineEnd, if_neg]
  intro last
  exact absent (List.mem_of_getLast? last)

/-- What is left of a text is the text, or the text is what is left with a line end after it. -/
theorem eq_dropLineEnd_or_append (content : Text) :
    content = dropLineEnd content ∨
      content = dropLineEnd content ++ [CodePoint.ofChar '\n'] := by
  by_cases last : content.getLast? = some (CodePoint.ofChar '\n')
  · obtain ⟨front, rfl⟩ := List.getLast?_eq_some_iff.mp last
    exact .inr (by rw [dropLineEnd_append])
  · exact .inl (if_neg last).symm

/-- A text is recognized if it is an identifier without its line end. -/
theorem holds_iff_isWritten : holds content = true ↔ IsWritten (dropLineEnd content) := by
  unfold holds
  cases dropLineEnd content with
  | nil => exact ⟨nofun, nofun⟩
  | cons mark digits =>
      simp only [Bool.and_eq_true, beq_iff_eq, decide_eq_true_eq, List.all_eq_true,
        CodePoint.isSome_hexValue?_iff]
      constructor
      · rintro ⟨⟨⟨rfl, some⟩, few⟩, hexadecimal⟩
        exact .intro (List.length_pos_iff.mp some) few hexadecimal
      · rintro ⟨nonempty, few, hexadecimal⟩
        exact ⟨⟨⟨rfl, List.length_pos_iff.mpr nonempty⟩, few⟩, hexadecimal⟩

/-- Exactly the identifiers are recognized, each with or without a line end. -/
theorem holds_iff : holds content = true ↔ IsWritten content ∨ IsTerminated content := by
  rw [holds_iff_isWritten]
  constructor
  · intro written
    rcases eq_dropLineEnd_or_append content with same | terminated
    · exact .inl (same ▸ written)
    · exact .inr ⟨dropLineEnd content, written, terminated⟩
  · rintro (written | ⟨identifier, written, rfl⟩)
    · rwa [dropLineEnd_of_not_mem written.lineEnd_not_mem]
    · rwa [dropLineEnd_append]

example : holds (literal "*1F\n\n") = false := by decide

/-! ## The converter -/

theorem apply_isInternalId (content : Text) :
    Converter.isInternalId.apply (.text content) = .ok (.bool (holds content)) :=
  rfl

/-- A text is judged rightly if it is accepted exactly if it is an identifier, and is refused
otherwise. -/
structure IsJudgedRightly (content : Text) : Prop where
  accepted :
    Converter.isInternalId.apply (.text content) = .ok (.bool true) ↔ IsWritten content
  refused :
    Converter.isInternalId.apply (.text content) = .ok (.bool false) ↔ ¬ IsWritten content

theorem isJudgedRightly_iff :
    IsJudgedRightly content ↔ (holds content = true ↔ IsWritten content) := by
  have accepts : Converter.isInternalId.apply (.text content) = .ok (.bool true) ↔
      holds content = true := by
    rw [apply_isInternalId, Except.ok.injEq, Value.bool.injEq]
  have refuses : Converter.isInternalId.apply (.text content) = .ok (.bool false) ↔
      ¬ holds content = true := by
    rw [apply_isInternalId, Except.ok.injEq, Value.bool.injEq, Bool.not_eq_true]
  constructor
  · intro judged
    rw [← accepts, judged.accepted]
  · intro holds_iff
    exact ⟨accepts.trans holds_iff, refuses.trans (not_congr holds_iff)⟩

/-- A text is accepted exactly if it is an identifier with or without a line end after it, and so it
is judged rightly exactly if there is no line end after an identifier. -/
theorem isJudgedRightly_iff_not_isTerminated (content : Text) :
    (Converter.isInternalId.apply (.text content) = .ok (.bool true) ↔
        IsWritten content ∨ IsTerminated content) ∧
      (IsJudgedRightly content ↔ ¬ IsTerminated content) := by
  constructor
  · rw [apply_isInternalId, Except.ok.injEq, Value.bool.injEq, holds_iff]
  · rw [isJudgedRightly_iff, holds_iff]
    constructor
    · intro judged terminated
      exact terminated.not_isWritten (judged.mp (.inr terminated))
    · intro notTerminated
      exact or_iff_left notTerminated

/-- Not every text is judged rightly: a line end after an identifier is accepted. -/
theorem not_forall_isJudgedRightly : ¬ ∀ content, IsJudgedRightly content := by
  intro judged
  have accepted : Converter.isInternalId.apply (.text (literal "*1\n")) = .ok (.bool true) := by
    decide
  have written := (judged (literal "*1\n")).accepted.mp accepted
  exact written.lineEnd_not_mem (by decide)

end InternalId
end RouterApi
