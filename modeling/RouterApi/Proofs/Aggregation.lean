import Mathlib.Data.List.DropRight
import Mathlib.Data.List.Induction
import RouterApi.Error

/-!
# What a reply is made of

A reply is folded from sentences one by one. What it comes to can also be told from all of them
together: data counts from the last empty sentence on, the first failure is the one that counts, and
the last terminal sentence decides how far the reply has come, as done only if nothing has failed
before it. This holds of any sentences, also of those that follow a terminal one.
-/

namespace RouterApi

/-! ## Control words -/

namespace Sentence

/-- Whether the first word of a sentence is the given one. -/
def OpensWith
    (sentence : Sentence)
    (word : String) : Prop :=
  sentence.word = .text (literal word)

instance (sentence : Sentence) (word : String) : Decidable (sentence.OpensWith word) :=
  inferInstanceAs (Decidable (sentence.word = .text (literal word)))

/-- Whether the first word of a sentence is none of the known control words, and not empty. -/
def IsUnknown (sentence : Sentence) : Prop :=
  ∀ word ∈ ["!re", "!done", "!empty", "!trap", "!fatal", ""], ¬ sentence.OpensWith word

/-- Whether a sentence reports a failure. -/
def IsFailing (sentence : Sentence) : Prop :=
  sentence.OpensWith "!trap" ∨ sentence.OpensWith "!fatal" ∨ sentence.IsUnknown

/-- Whether a sentence ends a reply. -/
def IsFinal (sentence : Sentence) : Prop :=
  sentence.OpensWith "!done" ∨ sentence.OpensWith "!fatal" ∨ sentence.IsUnknown

/-- The failure that a sentence reports. -/
inductive Reports (sentence : Sentence) : Failure → Prop
  | trap (opens : sentence.OpensWith "!trap") : Reports sentence (.trap sentence)
  | fatal (opens : sentence.OpensWith "!fatal") : Reports sentence (.fatal sentence)
  | unknown (isUnknown : sentence.IsUnknown) : Reports sentence (.unknown sentence)

/-- Each control word announces one thing, which no other word announces. -/
theorem opensWith_iff
    {word : String}
    {control : Control}
    (listed : (literal word, control) ∈ controlWords)
    (sentence : Sentence) :
    sentence.OpensWith word ↔ sentence.control = control := by
  have known : ∀ entry ∈ controlWords, controlWords.lookup entry.1 = some entry.2 := by decide
  have distinct : ∀ entry ∈ controlWords, ∀ other ∈ controlWords,
      entry.2 = other.2 → entry.1 = other.1 := by decide
  have never : ∀ entry ∈ controlWords, entry.2 ≠ .unknown := by decide
  unfold OpensWith Sentence.control
  constructor
  · intro opens
    rw [opens]
    simp only [known _ listed, Option.getD_some]
  · intro announced
    split at announced
    · rename_i content word_eq
      cases found : controlWords.lookup content with
      | none =>
          rw [found] at announced
          exact absurd announced.symm (never _ listed)
      | some other =>
          rw [found, Option.getD_some] at announced
          obtain ⟨before, after, split, -⟩ := List.lookup_eq_some_iff.mp found
          have member : (content, other) ∈ controlWords := by
            rw [split]
            exact List.mem_append_right before List.mem_cons_self
          obtain rfl : content = literal word := distinct _ member _ listed announced
          exact word_eq
    · exact absurd announced.symm (never _ listed)

variable (sentence : Sentence)

theorem opensWith_re_iff : sentence.OpensWith "!re" ↔ sentence.control = .data :=
  opensWith_iff (by decide) sentence

theorem opensWith_done_iff : sentence.OpensWith "!done" ↔ sentence.control = .done :=
  opensWith_iff (by decide) sentence

theorem opensWith_empty_iff : sentence.OpensWith "!empty" ↔ sentence.control = .empty :=
  opensWith_iff (by decide) sentence

theorem opensWith_trap_iff : sentence.OpensWith "!trap" ↔ sentence.control = .trap :=
  opensWith_iff (by decide) sentence

theorem opensWith_fatal_iff : sentence.OpensWith "!fatal" ↔ sentence.control = .fatal :=
  opensWith_iff (by decide) sentence

/-- Only the sentences that open with none of the known words announce something unknown. -/
theorem isUnknown_iff : sentence.IsUnknown ↔ sentence.control = .unknown := by
  have blank := opensWith_iff (by decide : (literal "", Control.blank) ∈ controlWords) sentence
  simp only [IsUnknown, List.forall_mem_cons, opensWith_re_iff, opensWith_done_iff,
    opensWith_empty_iff, opensWith_trap_iff, opensWith_fatal_iff, blank]
  cases sentence.control <;> simp

/-- A sentence that reports no failure is not a failing one. -/
theorem not_isFailing_iff : ¬ sentence.IsFailing ↔ Failure.ofSentence? sentence = none := by
  rw [IsFailing, opensWith_trap_iff, opensWith_fatal_iff, isUnknown_iff, Failure.ofSentence?]
  cases sentence.control <;> simp

/-- Terminal sentences are those that end a reply. -/
theorem isTerminal_iff : sentence.isTerminal = true ↔ sentence.IsFinal := by
  rw [IsFinal, opensWith_done_iff, opensWith_fatal_iff, isUnknown_iff, isTerminal]
  cases sentence.control <;> simp

instance : Decidable sentence.IsFinal :=
  decidable_of_iff _ sentence.isTerminal_iff

end Sentence

/-- The failure that is made from a sentence is the one that it reports. -/
theorem Failure.ofSentence?_eq_some_iff
    (sentence : Sentence)
    (failure : Failure) :
    ofSentence? sentence = some failure ↔ sentence.Reports failure := by
  constructor
  · intro made
    unfold ofSentence? at made
    split at made <;> cases made
    · rename_i trap
      exact .trap (sentence.opensWith_trap_iff.mpr trap)
    · rename_i fatal
      exact .fatal (sentence.opensWith_fatal_iff.mpr fatal)
    · rename_i unknown
      exact .unknown (sentence.isUnknown_iff.mpr unknown)
  · intro reports
    cases reports with
    | trap opens => rw [ofSentence?, sentence.opensWith_trap_iff.mp opens]
    | fatal opens => rw [ofSentence?, sentence.opensWith_fatal_iff.mp opens]
    | unknown isUnknown => rw [ofSentence?, sentence.isUnknown_iff.mp isUnknown]

/-! ## One sentence -/

namespace Reply

variable (reply : Reply) (sentence : Sentence)

theorem data_process :
    (reply.process sentence).data =
      if sentence.OpensWith "!empty" then []
      else if sentence.OpensWith "!re" then reply.data ++ [sentence]
      else reply.data := by
  simp only [sentence.opensWith_empty_iff, sentence.opensWith_re_iff]
  unfold process
  cases sentence.control <;> rfl

theorem done_process :
    (reply.process sentence).done =
      if sentence.OpensWith "!done" ∨ sentence.OpensWith "!fatal" then some sentence
      else reply.done := by
  simp only [sentence.opensWith_done_iff, sentence.opensWith_fatal_iff]
  unfold process
  cases sentence.control <;> rfl

/-- A terminal sentence decides how far a reply has come. -/
theorem progress_process :
    (reply.process sentence).progress =
      if sentence.IsFinal then
        if sentence.OpensWith "!done" ∧ reply.failure = none then .done else .failed
      else reply.progress := by
  simp only [← sentence.isTerminal_iff, sentence.opensWith_done_iff]
  unfold process Sentence.isTerminal
  cases sentence.control <;> cases reply.failure <;> rfl

/-! ## All sentences -/

/-- The failure of a reply is the first one that a sentence reports. -/
theorem failure_foldl_process
    (sentences : List Sentence)
    (reply : Reply) :
    (sentences.foldl process reply).failure =
      reply.failure.or (sentences.findSome? Failure.ofSentence?) := by
  induction sentences generalizing reply with
  | nil => simp
  | cons sentence later inductionHypothesis =>
      rw [List.foldl_cons, inductionHypothesis, failure_process, Option.or_assoc]
      cases reported : Failure.ofSentence? sentence with
      | none => simp [reported]
      | some failure => simp [reported]

variable (sentences : List Sentence)

/-- The data of a reply are the data sentences after the last empty one. -/
theorem data_foldl_process :
    (sentences.foldl process {}).data =
      (sentences.rtakeWhile fun sentence => !sentence.OpensWith "!empty").filter
        fun sentence => sentence.OpensWith "!re" := by
  induction sentences using List.reverseRecOn with
  | nil => rfl
  | append_singleton earlier last inductionHypothesis =>
      rw [List.foldl_concat, data_process, inductionHypothesis, List.rtakeWhile_concat]
      by_cases empty : last.OpensWith "!empty"
      · simp [empty]
      · by_cases data : last.OpensWith "!re"
        · simp [empty, data]
        · simp [empty, data]

/-- The last sentence of a reply is the last done or fatal one. -/
theorem done_foldl_process :
    (sentences.foldl process {}).done =
      (sentences.filter fun sentence =>
        sentence.OpensWith "!done" ∨ sentence.OpensWith "!fatal").getLast? := by
  induction sentences using List.reverseRecOn with
  | nil => rfl
  | append_singleton earlier last inductionHypothesis =>
      rw [List.foldl_concat, done_process, inductionHypothesis]
      by_cases final : last.OpensWith "!done" ∨ last.OpensWith "!fatal"
      · simp [final]
      · simp [final]

/-- Nothing has failed in a reply if no sentence reports a failure. -/
theorem failure_eq_none_iff :
    (sentences.foldl process {}).failure = none ↔
      ∀ sentence ∈ sentences, ¬ sentence.IsFailing := by
  simp only [failure_foldl_process, Option.none_or, List.findSome?_eq_none_iff,
    Sentence.not_isFailing_iff]

/-- The failure of a reply is reported by the first sentence that reports any. -/
theorem failure_eq_some_iff
    (failure : Failure) :
    (sentences.foldl process {}).failure = some failure ↔
      ∃ earlier sentence later, sentences = earlier ++ sentence :: later ∧
        sentence.Reports failure ∧ ∀ other ∈ earlier, ¬ other.IsFailing := by
  simp only [failure_foldl_process, Option.none_or, List.findSome?_eq_some_iff,
    Failure.ofSentence?_eq_some_iff, Sentence.not_isFailing_iff]

/-- A failure that has been recorded stays the one that counts. -/
theorem failure_foldl_append
    {failure : Failure}
    (recorded : (sentences.foldl process {}).failure = some failure)
    (later : List Sentence) :
    ((sentences ++ later).foldl process {}).failure = some failure := by
  rw [List.foldl_append, failure_foldl_process, recorded, Option.some_or]

/-- A reply is being collected until a sentence ends it. -/
theorem progress_eq_collecting_iff :
    (sentences.foldl process {}).progress = .collecting ↔
      ∀ sentence ∈ sentences, ¬ sentence.IsFinal := by
  induction sentences using List.reverseRecOn with
  | nil => simp
  | append_singleton earlier last inductionHypothesis =>
      rw [List.foldl_concat, progress_process, List.forall_mem_append, List.forall_mem_singleton]
      by_cases final : last.IsFinal
      · rw [if_pos final]
        split <;> simp [final]
      · rw [if_neg final, inductionHypothesis]
        simp [final]

end Reply

/-- Whether the last sentence that ended a reply is a done sentence, with no failure before it. -/
def EndsWell (sentences : List Sentence) : Prop :=
  ∃ earlier last later, sentences = earlier ++ last :: later ∧ last.OpensWith "!done" ∧
    (∀ sentence ∈ earlier, ¬ sentence.IsFailing) ∧ ∀ sentence ∈ later, ¬ sentence.IsFinal

theorem endsWell_concat_of_isFinal
    {sentences : List Sentence}
    {sentence : Sentence}
    (final : sentence.IsFinal) :
    EndsWell (sentences ++ [sentence]) ↔
      sentence.OpensWith "!done" ∧ ∀ earlier ∈ sentences, ¬ earlier.IsFailing := by
  constructor
  · rintro ⟨earlier, last, later, split, done, silent, unfinished⟩
    rcases List.eq_nil_or_concat' later with rfl | ⟨between, other, rfl⟩
    · obtain ⟨rfl, same⟩ := List.append_inj' split rfl
      obtain rfl : sentence = last := List.singleton_inj.mp same
      exact ⟨done, silent⟩
    · -- The sentence would stand after the last one that ends the reply.
      rw [← List.cons_append, ← List.append_assoc] at split
      obtain rfl : sentence = other := List.singleton_inj.mp (List.append_inj' split rfl).2
      exact absurd final (unfinished _ (by simp))
  · rintro ⟨done, silent⟩
    exact ⟨sentences, sentence, [], rfl, done, silent, List.forall_mem_nil _⟩

theorem endsWell_concat_of_not_isFinal
    {sentences : List Sentence}
    {sentence : Sentence}
    (goesOn : ¬ sentence.IsFinal) :
    EndsWell (sentences ++ [sentence]) ↔ EndsWell sentences := by
  constructor
  · rintro ⟨earlier, last, later, split, done, silent, unfinished⟩
    rcases List.eq_nil_or_concat' later with rfl | ⟨between, other, rfl⟩
    · obtain rfl : sentence = last := List.singleton_inj.mp (List.append_inj' split rfl).2
      exact absurd (.inl done) goesOn
    · rw [← List.cons_append, ← List.append_assoc] at split
      obtain ⟨rfl, -⟩ := List.append_inj' split rfl
      exact ⟨earlier, last, between, rfl, done, silent, (List.forall_mem_append.mp unfinished).1⟩
  · rintro ⟨earlier, last, later, rfl, done, silent, unfinished⟩
    refine ⟨earlier, last, later ++ [sentence], by simp, done, silent, ?_⟩
    rw [List.forall_mem_append, List.forall_mem_singleton]
    exact ⟨unfinished, goesOn⟩

namespace Reply

variable (sentences : List Sentence)

/-- A reply is done if it has ended well. -/
theorem progress_eq_done_iff :
    (sentences.foldl process {}).progress = .done ↔ EndsWell sentences := by
  induction sentences using List.reverseRecOn with
  | nil => simp [EndsWell]
  | append_singleton earlier last inductionHypothesis =>
      rw [List.foldl_concat, progress_process]
      by_cases final : last.IsFinal
      · rw [if_pos final, endsWell_concat_of_isFinal final, ← failure_eq_none_iff]
        split
        · rename_i well
          exact iff_of_true rfl well
        · rename_i ill
          exact iff_of_false nofun ill
      · rw [if_neg final, endsWell_concat_of_not_isFinal final, inductionHypothesis]

/-- A reply has failed if it has ended, but not well. -/
theorem progress_eq_failed_iff :
    (sentences.foldl process {}).progress = .failed ↔
      (∃ sentence ∈ sentences, sentence.IsFinal) ∧ ¬ EndsWell sentences := by
  have collecting_iff := progress_eq_collecting_iff sentences
  have done_iff := progress_eq_done_iff sentences
  cases progress : (sentences.foldl process {}).progress with
  | collecting =>
      have unfinished := collecting_iff.mp progress
      refine iff_of_false nofun ?_
      rintro ⟨⟨sentence, member, final⟩, -⟩
      exact unfinished sentence member final
  | done =>
      refine iff_of_false nofun ?_
      rintro ⟨-, ill⟩
      exact ill (done_iff.mp progress)
  | failed =>
      rw [progress] at collecting_iff done_iff
      refine iff_of_true rfl ⟨?_, ?_⟩
      · have ended : ¬ ∀ sentence ∈ sentences, ¬ sentence.IsFinal := mt collecting_iff.mpr nofun
        simpa using ended
      · exact mt done_iff.mpr nofun

/-- The error that is raised for a reply refers to the reply as it is by then. -/
theorem result_of_failure
    {reply : Reply}
    {failure : Failure}
    (recorded : reply.failure = some failure) :
    reply.error? = some (.reported failure (some reply)) ∧
      reply.result = .error (.reported failure (some reply)) := by
  have error_eq : reply.error? = some (.reported failure (some reply)) := by
    rw [error?, recorded, Option.map_some]
  refine ⟨error_eq, ?_⟩
  rw [result, error_eq]

theorem result_of_failure_eq_none
    {reply : Reply}
    (silent : reply.failure = none) :
    reply.result = if reply.progress = .done then .ok reply else .error .incompleteReply := by
  rw [result, error?, silent, Option.map_none]

/-- A reply is returned if it is done and nothing has failed. -/
theorem result_eq_ok_iff
    (reply : Reply) :
    reply.result = .ok reply ↔ reply.progress = .done ∧ reply.failure = none := by
  cases recorded : reply.failure with
  | some failure => simp [(result_of_failure recorded).2]
  | none =>
      rw [result_of_failure_eq_none recorded]
      by_cases done : reply.progress = .done
      · simp [done]
      · simp [done]

/-- What a reply comes to, told from all the sentences that have been folded into it. -/
structure Reflects
    (reply : Reply)
    (sentences : List Sentence) : Prop where
  data_eq : reply.data =
    (sentences.rtakeWhile fun sentence => !sentence.OpensWith "!empty").filter
      fun sentence => sentence.OpensWith "!re"
  done_eq : reply.done =
    (sentences.filter fun sentence =>
      sentence.OpensWith "!done" ∨ sentence.OpensWith "!fatal").getLast?
  failure_iff : ∀ failure, reply.failure = some failure ↔
    ∃ earlier sentence later, sentences = earlier ++ sentence :: later ∧
      sentence.Reports failure ∧ ∀ other ∈ earlier, ¬ other.IsFailing
  collecting_iff : reply.progress = .collecting ↔ ∀ sentence ∈ sentences, ¬ sentence.IsFinal
  done_iff : reply.progress = .done ↔ EndsWell sentences
  failed_iff : reply.progress = .failed ↔
    (∃ sentence ∈ sentences, sentence.IsFinal) ∧ ¬ EndsWell sentences
  returned_iff : reply.result = .ok reply ↔
    reply.progress = .done ∧ ∀ sentence ∈ sentences, ¬ sentence.IsFailing
  raised : ∀ failure, reply.failure = some failure →
    reply.error? = some (.reported failure (some reply)) ∧
      reply.result = .error (.reported failure (some reply))
  unfinished : reply.failure = none → reply.progress ≠ .done →
    reply.result = .error .incompleteReply ∧ Error.incompleteReply.kind = .runtime

/-- What folding any sentences comes to. A failure that has been recorded stays, whatever follows,
and each sentence by itself tells whether it is terminal and which failure it reports. -/
theorem reflects_foldl_process :
    (sentences.foldl process {}).Reflects sentences ∧
    (∀ failure later, (sentences.foldl process {}).failure = some failure →
      ((sentences ++ later).foldl process {}).failure = some failure) ∧
    ∀ sentence : Sentence, (sentence.isTerminal = true ↔ sentence.IsFinal) ∧
      ∀ failure, Failure.ofSentence? sentence = some failure ↔ sentence.Reports failure := by
  refine ⟨?_, fun failure later recorded => ?_, fun sentence => ⟨?_, ?_⟩⟩
  · exact {
      data_eq := data_foldl_process sentences
      done_eq := done_foldl_process sentences
      failure_iff := failure_eq_some_iff sentences
      collecting_iff := progress_eq_collecting_iff sentences
      done_iff := progress_eq_done_iff sentences
      failed_iff := progress_eq_failed_iff sentences
      returned_iff := by rw [result_eq_ok_iff, failure_eq_none_iff]
      raised := fun failure recorded => result_of_failure recorded
      unfinished := by
        intro silent undone
        rw [result_of_failure_eq_none silent, if_neg undone]
        exact ⟨rfl, rfl⟩ }
  · exact failure_foldl_append sentences recorded later
  · exact sentence.isTerminal_iff
  · exact Failure.ofSentence?_eq_some_iff sentence

end Reply
end RouterApi
