import Mathlib.Data.List.Forall2
import RouterApi.Proofs.Text
import RouterApi.Request

/-!
# Masked words

The values of secret attributes do not show: words that only differ in such values are shown alike,
and so are sentences and requests made of them. Nothing else is changed.
-/

namespace RouterApi

namespace Word

/-- Two words are like each other if they are the same, or give values to the same secret attribute.
-/
inductive IsLike : Word → Word → Prop
  | same (word : Word) : IsLike word word
  | secret {key : Text} (isSecret : key ∈ secretKeys) (value other : Value) :
      IsLike (.text (ofAttribute key value)) (.text (ofAttribute key other))

/-- Two texts are like each other if they are as words. -/
abbrev IsLikeText (first second : Text) : Prop :=
  IsLike (.text first) (.text second)

/-- A word sets a secret attribute if it gives it a value, which may be left out. -/
def SetsSecret (word : Text) : Prop :=
  ∃ key ∈ secretKeys, word = attributeMark ++ key ∨ ∃ value, word = ofAttribute key (.text value)

/-! ## One word -/

theorem parse_ofAttribute
    {key : Text}
    (plain : CodePoint.ofChar '=' ∉ key)
    (value : Value) :
    parse (ofAttribute key value) = (key, value.toText) := by
  have dropped : (ofAttribute key value).drop 1 =
      key ++ CodePoint.ofChar '=' :: value.toText := by
    simp only [ofAttribute, List.append_assoc]
    rfl
  simp only [parse, dropped, Text.splitAtFirst?_append plain]

theorem plain_of_mem_secretKeys
    {key : Text}
    (isSecret : key ∈ secretKeys) :
    CodePoint.ofChar '=' ∉ key := by
  revert key
  decide

theorem isPrefixOf_ofAttribute
    (key : Text)
    (value : Value) :
    attributeMark.isPrefixOf (ofAttribute key value) = true := by
  simp only [ofAttribute, List.append_assoc]
  exact List.isPrefixOf_iff_prefix.mpr (List.prefix_append ..)

theorem masked_ofAttribute
    {key : Text}
    (isSecret : key ∈ secretKeys)
    (value : Value) :
    masked (ofAttribute key value) = ofAttribute key (.text mask) := by
  have parsed := parse_ofAttribute (plain_of_mem_secretKeys isSecret) value
  rw [masked, parsed, isPrefixOf_ofAttribute, List.contains_iff_mem.mpr isSecret]
  rfl

theorem IsLikeText.masked_eq
    {first second : Text}
    (alike : IsLikeText first second) :
    masked first = masked second := by
  cases alike with
  | same => rfl
  | secret isSecret value other =>
      rw [masked_ofAttribute isSecret, masked_ofAttribute isSecret]

/-- A word that sets no secret attribute is shown as it is. -/
theorem masked_of_not_setsSecret
    {word : Text}
    (harmless : ¬ SetsSecret word) :
    masked word = word := by
  unfold masked
  split
  case isFalse => rfl
  case isTrue masking =>
    obtain ⟨marked, isSecret⟩ := Bool.and_eq_true_iff.mp masking
    have isSecret := List.contains_iff_mem.mp isSecret
    obtain ⟨rest, rfl⟩ := List.isPrefixOf_iff_prefix.mp marked
    have dropped : (attributeMark ++ rest).drop 1 = rest := rfl
    refine absurd ⟨_, isSecret, ?_⟩ harmless
    rw [parse, dropped]
    cases found : Text.splitAtFirst? (CodePoint.ofChar '=') rest with
    | none => exact .inl rfl
    | some pair =>
        obtain ⟨key, value⟩ := pair
        refine .inr ⟨value, ?_⟩
        rw [(Text.splitAtFirst?_eq_some_iff.mp found).1]
        simp only [ofAttribute, List.append_assoc]
        rfl

/-! ## Several words -/

theorem maskedAll_cons
    (word : Word)
    (rest : List Word) :
    maskedAll (word :: rest) =
      word.asText.bind fun content => (maskedAll rest).map (masked content :: ·) := by
  simp only [maskedAll, texts]
  cases word.asText with
  | error => rfl
  | ok content =>
      cases texts rest with
      | error | ok => rfl

theorem maskedAll_append (words later : List Word) :
    maskedAll (words ++ later) =
      (maskedAll words).bind fun shown => (maskedAll later).map (shown ++ ·) := by
  induction words with
  | nil =>
      rw [List.nil_append]
      cases maskedAll later with
      | error | ok => rfl
  | cons word rest inductionHypothesis =>
      rw [List.cons_append, maskedAll_cons, maskedAll_cons, inductionHypothesis]
      cases word.asText with
      | error => rfl
      | ok content =>
          cases maskedAll rest with
          | error => rfl
          | ok shown =>
              cases maskedAll later with
              | error | ok => rfl

/-- Words that are like each other are shown alike. -/
theorem maskedAll_eq_of_isLike
    {first second : List Word}
    (alike : List.Forall₂ IsLike first second) :
    maskedAll first = maskedAll second := by
  induction alike with
  | nil => rfl
  | cons head _ inductionHypothesis =>
      rw [maskedAll_cons, maskedAll_cons, inductionHypothesis]
      cases head with
      | same => rfl
      | secret isSecret value other =>
          have alike : IsLikeText (ofAttribute _ value) (ofAttribute _ other) :=
            .secret isSecret value other
          simp only [Value.asText, Except.bind, alike.masked_eq]

/-- Words are shown if they are texts, each of them masked. -/
theorem maskedAll_eq_ok_iff
    {words : List Word}
    {shown : List Text} :
    maskedAll words = .ok shown ↔
      List.Forall₂ (fun word text => ∃ content, word = .text content ∧ text = masked content)
        words shown := by
  induction words generalizing shown with
  | nil =>
      constructor
      · rintro ⟨⟩
        exact .nil
      · rintro ⟨⟩
        rfl
  | cons word rest inductionHypothesis =>
      rw [maskedAll_cons, List.forall₂_cons_left_iff]
      cases word with
      | text content =>
          cases others : maskedAll rest with
          | error error =>
              constructor
              · nofun
              · rintro ⟨_, later, -, decodes, -⟩
                rw [inductionHypothesis.mpr decodes] at others
                cases others
          | ok later =>
              have decodes := inductionHypothesis.mp others
              constructor
              · rintro ⟨⟩
                exact ⟨_, later, ⟨content, rfl, rfl⟩, decodes, rfl⟩
              · rintro ⟨_, otherLater, ⟨_, ⟨⟩, rfl⟩, otherDecodes, rfl⟩
                rw [inductionHypothesis.mpr otherDecodes] at others
                cases others
                rfl
      | _ =>
          constructor
          · nofun
          · rintro ⟨_, _, ⟨_, ⟨⟩, _⟩, _⟩

/-- Masking keeps the number of words, and each word that sets no secret attribute. -/
theorem getElem?_of_maskedAll
    {words : List Word}
    {shown : List Text}
    (masking : maskedAll words = .ok shown) :
    shown.length = words.length ∧
      ∀ (index : Nat) word, words[index]? = some (.text word) → ¬ SetsSecret word →
        shown[index]? = some word := by
  have masks := maskedAll_eq_ok_iff.mp masking
  refine ⟨masks.length_eq.symm, ?_⟩
  clear masking
  intro index word found harmless
  induction masks generalizing index with
  | nil => cases found
  | cons head _ inductionHypothesis =>
      cases index with
      | succ index => exact inductionHypothesis index found
      | zero =>
          obtain ⟨content, rfl, rfl⟩ := head
          cases found
          exact congrArg some (masked_of_not_setsSecret harmless)

end Word

/-- Requests for commands that are like each other are shown alike. -/
theorem Request.inspect_eq_of_isLike
    {first second : List Word}
    (alike : List.Forall₂ Word.IsLike first second)
    (request : Request) :
    { request with words := first }.inspect = { request with words := second }.inspect := by
  simp only [inspect, Word.maskedAll_eq_of_isLike alike]

/-! ## Sentences -/

namespace Sentence

variable {first second : List Text}

theorem tagOf?_ofAttribute
    (key : Text)
    (value : Value) :
    tagOf? (Word.ofAttribute key value) = none :=
  rfl

theorem pairOf?_ofAttribute
    {key : Text}
    (plain : CodePoint.ofChar '=' ∉ key)
    (value : Value) :
    pairOf? (Word.ofAttribute key value) = some (key, value.toText) := by
  rw [pairOf?, tagOf?_ofAttribute, Word.isPrefixOf_ofAttribute, Word.parse_ofAttribute plain]
  rfl

theorem foldl_tagOf?_eq_of_isLike
    (alike : List.Forall₂ Word.IsLikeText first second)
    (found : Option Text) :
    first.foldl (fun found word => (tagOf? word).or found) found =
      second.foldl (fun found word => (tagOf? word).or found) found := by
  induction alike generalizing found with
  | nil => rfl
  | cons head _ inductionHypothesis =>
      rw [List.foldl_cons, List.foldl_cons, inductionHypothesis]
      cases head with
      | same | secret => rfl

theorem maskedPairs_eq_of_isLike
    (alike : List.Forall₂ Word.IsLikeText first second) :
    maskedPairs ((first.filterMap pairOf?).map fun (key, value) => (.text key, .text value)) =
      maskedPairs
        ((second.filterMap pairOf?).map fun (key, value) => (.text key, .text value)) := by
  induction alike with
  | nil => rfl
  | @cons word other _ _ head _ inductionHypothesis =>
      cases head with
      | same =>
          cases pair : pairOf? word with
          | none => simpa [pair] using inductionHypothesis
          | some => simpa [pair, maskedPairs] using inductionHypothesis
      | @secret key isSecret value other =>
          have masking : Word.isSecret (.text key) = true := List.contains_iff_mem.mpr isSecret
          have plain := Word.plain_of_mem_secretKeys isSecret
          rw [List.filterMap_cons_some (pairOf?_ofAttribute plain value),
            List.filterMap_cons_some (pairOf?_ofAttribute plain other)]
          simp only [maskedPairs, List.map_cons, masking, if_true] at inductionHypothesis ⊢
          rw [inductionHypothesis]

/-- Sentences whose words after the first are like each other are shown alike. -/
theorem summary_eq_of_isLike
    (word : Value)
    (alike : List.Forall₂ Word.IsLikeText first second) :
    (opening word first).summary = (opening word second).summary := by
  have tag_eq : (opening word first).tag = (opening word second).tag :=
    foldl_tagOf?_eq_of_isLike alike none
  have pairs_eq := maskedPairs_eq_of_isLike alike
  simp only [summary, tag_eq, pairs, others, pairs_eq]
  rfl

end Sentence
end RouterApi
