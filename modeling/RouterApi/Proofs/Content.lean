import RouterApi.Proofs.Client.Answering
import RouterApi.Proofs.CommandWords

/-!
# What a reply says

A device that is asked to adds a tag to each sentence of its answer. The tag changes nothing about
what the sentence says, so that an answer with tags comes to the same as the answer without them: a
reply that says the same, or an error of the same kind with the same message.
-/

namespace RouterApi

/-! ## Contents -/

/-- What a sentence says, its tag aside. -/
structure Sentence.Content where
  word : Value
  pairs : List (Text × Text)
  attributes : Assoc Text Text

/-- What the sentence of a failure says, and how the failure is told from others. -/
structure Failure.Content where
  kind : ErrorKind
  sentence : Sentence.Content

/-- What the sentences of a reply say. -/
structure Reply.Content where
  data : List Sentence.Content
  done : Option Sentence.Content
  failure : Option Failure.Content
  progress : Progress

/-- What an error says, and the reply that it carries. -/
structure Error.Content where
  kind : ErrorKind
  message : Text
  reply : Option Reply.Content

/-- What a sentence says. -/
def Sentence.content (sentence : Sentence) : Content where
  word := sentence.word
  pairs := sentence.pairs
  attributes := sentence.attributes

/-- What a failure says. -/
def Failure.content (failure : Failure) : Content where
  kind := (Error.reported failure none).kind
  sentence := failure.sentence.content

/-- What a reply says. -/
def Reply.content (reply : Reply) : Content where
  data := reply.data.map Sentence.content
  done := reply.done.map Sentence.content
  failure := reply.failure.map Failure.content
  progress := reply.progress

/-- The reply that an error carries. -/
def Error.reply? : Error → Option Reply
  | reported _ reply | rejected _ reply => reply
  | _ => none

/-- What an error says. -/
def Error.content (error : Error) : Content where
  kind := error.kind
  message := error.message
  reply := error.reply?.map Reply.content

/-- What a result says. -/
def resultContent : Except Error Reply → Except Error.Content Reply.Content
  | .ok reply => .ok reply.content
  | .error error => .error error.content

/-- What an outcome says, unless it is still waited for. -/
def Outcome.content : Outcome Reply → Option (Except Error.Content Reply.Content)
  | returned reply => some (.ok reply.content)
  | raised error => some (.error error.content)
  | waiting => none

variable {sentence otherSentence : Sentence} {failure otherFailure : Failure}
  {reply otherReply : Reply}

theorem Sentence.control_eq (same : sentence.content = otherSentence.content) :
    sentence.control = otherSentence.control := by
  have word_eq : sentence.word = otherSentence.word := congrArg Content.word same
  rw [control, control, word_eq]

theorem Sentence.isTerminal_eq (same : sentence.content = otherSentence.content) :
    sentence.isTerminal = otherSentence.isTerminal := by
  rw [isTerminal, isTerminal, control_eq same]

/-- Failures that say the same have the same message. -/
theorem Failure.message_eq
    (same : failure.content = otherFailure.content)
    (reply otherReply : Option Reply) :
    (Error.reported failure reply).message = (Error.reported otherFailure otherReply).message := by
  have kind_eq : (Error.reported failure none).kind = (Error.reported otherFailure none).kind :=
    congrArg Content.kind same
  have word_eq : failure.sentence.word = otherFailure.sentence.word :=
    congrArg (·.sentence.word) same
  have attributes_eq : failure.sentence.attributes = otherFailure.sentence.attributes :=
    congrArg (·.sentence.attributes) same
  have description_eq : failure.description = otherFailure.description := by
    rw [description, description, Sentence.attribute?, Sentence.attribute?, attributes_eq]
  cases failure with
  | trap =>
      cases otherFailure with
      | trap => exact congrArg (literal "from RouterOS device: " ++ ·) description_eq
      | fatal | unknown => cases kind_eq
  | fatal =>
      cases otherFailure with
      | fatal => exact congrArg (literal "from RouterOS device: " ++ ·) description_eq
      | trap | unknown => cases kind_eq
  | unknown =>
      cases otherFailure with
      | unknown =>
          exact congrArg (literal "unknown RouterOS reply word: " ++ Value.quoted ·) word_eq
      | trap | fatal => cases kind_eq

/-- Sentences that say the same report failures that say the same. -/
theorem Failure.content_ofSentence? (same : sentence.content = otherSentence.content) :
    (ofSentence? sentence).map content = (ofSentence? otherSentence).map content := by
  rw [ofSentence?, ofSentence?, Sentence.control_eq same]
  cases otherSentence.control with
  | trap => exact congrArg (fun said => some (Content.mk .device said)) same
  | fatal => exact congrArg (fun said => some (Content.mk .fatal said)) same
  | unknown => exact congrArg (fun said => some (Content.mk .unknownReply said)) same
  | data | done | empty | blank => rfl

namespace Reply

/-- Replies that say the same still do so once sentences that say the same have been folded in. -/
theorem content_process
    (same : reply.content = otherReply.content)
    (sameSentence : sentence.content = otherSentence.content) :
    (reply.process sentence).content = (otherReply.process otherSentence).content := by
  have data_eq : reply.data.map Sentence.content = otherReply.data.map Sentence.content :=
    congrArg Content.data same
  have done_eq : reply.done.map Sentence.content = otherReply.done.map Sentence.content :=
    congrArg Content.done same
  have failure_eq : reply.failure.map Failure.content = otherReply.failure.map Failure.content :=
    congrArg Content.failure same
  have progress_eq : reply.progress = otherReply.progress := congrArg Content.progress same
  have isNone_eq : reply.failure.isNone = otherReply.failure.isNone := by
    have mapped := congrArg Option.isNone failure_eq
    simpa using mapped
  have failures : (reply.process sentence).failure.map Failure.content =
      (otherReply.process otherSentence).failure.map Failure.content := by
    rw [failure_process, failure_process, Option.map_or, Option.map_or, failure_eq,
      Failure.content_ofSentence? sameSentence]
  rw [content, content, failures]
  unfold process
  rw [Sentence.control_eq sameSentence]
  cases otherSentence.control <;>
    simp [record, data_eq, done_eq, progress_eq, isNone_eq, sameSentence]

/-- Replies that say the same have results that say the same. -/
theorem content_result (same : reply.content = otherReply.content) :
    resultContent reply.result = resultContent otherReply.result := by
  have failure_eq : reply.failure.map Failure.content = otherReply.failure.map Failure.content :=
    congrArg Content.failure same
  have progress_eq : reply.progress = otherReply.progress := congrArg Content.progress same
  unfold result error?
  cases failed : reply.failure with
  | none =>
      have otherNone : otherReply.failure = none := by
        rw [failed] at failure_eq
        exact Option.map_eq_none_iff.mp failure_eq.symm
      rw [otherNone, progress_eq]
      simp only [Option.map_none]
      split
      · exact congrArg Except.ok same
      · rfl
  | some failure =>
      rw [failed] at failure_eq
      obtain ⟨otherFailure, otherFailed, sameFailure⟩ := Option.map_eq_some_iff.mp failure_eq.symm
      rw [otherFailed]
      have kind_eq : (Error.reported failure (some reply)).kind =
          (Error.reported otherFailure (some otherReply)).kind := by
        have plain : (Error.reported otherFailure none).kind = (Error.reported failure none).kind :=
          congrArg Failure.Content.kind sameFailure
        cases failure <;> cases otherFailure <;> first | rfl | cases plain
      have message_eq := Failure.message_eq sameFailure.symm (some reply) (some otherReply)
      simp only [Option.map_some, resultContent, Error.content, Error.reply?, kind_eq, message_eq,
        same]

end Reply

/-! ## Answers -/

/-- Endings of a stream are alike if both are the same error, or if both leave an incomplete
sentence or neither does. -/
inductive AreAlike : Wire.Decoder.Ending → Wire.Decoder.Ending → Prop
  | malformed error :
      AreAlike (.error error) (.error error)
  | exhausted {left otherLeft : Wire.Decoder}
      (isPending_eq : left.isPending = otherLeft.isPending) :
      AreAlike (.ok left) (.ok otherLeft)

/-- The outcome of a command whose reply goes on with the given sentences, and then ends. -/
def answerOf
    (reply : Reply)
    (ending : Wire.Decoder.Ending) : List Sentence → Outcome Reply
  | [] => .raised (Stream.endingError ending)
  | sentence :: later =>
      if sentence.isTerminal then Client.outcomeOf (reply.process sentence).result
      else answerOf (reply.process sentence) ending later

variable {ending otherEnding : Wire.Decoder.Ending} {sentences others : List Sentence}

/-- The sentences up to the first terminal one make up the answer. -/
theorem answerOf_append
    {segment : List Sentence}
    (complete : IsComplete segment)
    (reply : Reply)
    (later : List Sentence) :
    answerOf reply ending (segment ++ later) =
      Client.outcomeOf (segment.foldl Reply.process reply).result := by
  obtain ⟨earlier, last, rfl, nonterminal, terminal⟩ := complete
  induction earlier generalizing reply with
  | nil => simp [answerOf, terminal]
  | cons sentence earlier inductionHypothesis =>
      obtain ⟨goesOn, goesOnLater⟩ := List.forall_mem_cons.mp nonterminal
      simp only [List.cons_append, answerOf, goesOn, Bool.false_eq_true, if_false,
        List.foldl_cons]
      exact inductionHypothesis _ goesOnLater

/-- Without a terminal sentence, the answer is the error that ends the stream. -/
theorem answerOf_of_nonterminal
    (nonterminal : ∀ sentence ∈ sentences, sentence.isTerminal = false)
    (reply : Reply) :
    answerOf reply ending sentences = .raised (Stream.endingError ending) := by
  induction sentences generalizing reply with
  | nil => rfl
  | cons sentence later inductionHypothesis =>
      obtain ⟨goesOn, goesOnLater⟩ := List.forall_mem_cons.mp nonterminal
      rw [answerOf, if_neg (by simp [goesOn])]
      exact inductionHypothesis goesOnLater _

theorem endingError_eq (alike : AreAlike ending otherEnding) :
    Stream.endingError ending = Stream.endingError otherEnding := by
  cases alike with
  | malformed error => rfl
  | exhausted isPending_eq =>
      rw [Stream.endingError, Stream.endError, isPending_eq]
      rfl

theorem content_outcomeOf (result : Except Error Reply) :
    (Client.outcomeOf result).content = some (resultContent result) := by
  cases result <;> rfl

/-- Sentences that say the same make up answers that say the same. -/
theorem content_answerOf
    (alike : AreAlike ending otherEnding)
    (same : reply.content = otherReply.content)
    (sameSentences : sentences.map Sentence.content = others.map Sentence.content) :
    ∃ said, (answerOf reply ending sentences).content = some said ∧
      (answerOf otherReply otherEnding others).content = some said := by
  induction sentences generalizing reply otherReply others with
  | nil =>
      have others_eq : others = [] := List.map_eq_nil_iff.mp sameSentences.symm
      subst others_eq
      refine ⟨_, rfl, ?_⟩
      rw [answerOf, ← endingError_eq alike]
      rfl
  | cons sentence later inductionHypothesis =>
      cases others with
      | nil => cases sameSentences
      | cons other otherLater =>
          obtain ⟨first, rest⟩ := List.cons.inj sameSentences
          have processed := Reply.content_process same first
          rw [answerOf, answerOf, Sentence.isTerminal_eq first]
          split
          · rw [content_outcomeOf, content_outcomeOf, Reply.content_result processed]
            exact ⟨_, rfl, rfl⟩
          · exact inductionHypothesis processed rest

/-! ## Tags -/

/-- The words of a sentence with a tag added, unless there are no words. -/
def tagging (tag : Text) : List Text → List Text
  | [] => []
  | first :: others => first :: (others ++ [Word.ofTag (.text tag)])

/-- The tag that has been added is the tag of the sentence. -/
theorem tag_tagging
    {words : List Text}
    (nonempty : words ≠ [])
    (tag : Text) :
    (Sentence.ofTexts (tagging tag words)).tag = some tag := by
  cases words with
  | nil => contradiction
  | cons first others =>
      rw [tagging, Sentence.ofTexts, Sentence.tag, Sentence.others, List.foldl_append,
        List.foldl_cons, Sentence.tagOf?_ofTag]
      rfl

/-- A sentence with a tag says what it says without. -/
theorem content_tagging
    (tag : Text)
    (words : List Text) :
    (Sentence.ofTexts (tagging tag words)).content = (Sentence.ofTexts words).content := by
  cases words with
  | nil => rfl
  | cons first others =>
      have unpaired := Sentence.pairOf?_ofTag (.text tag)
      have pairs_eq : (Sentence.ofTexts (tagging tag (first :: others))).pairs =
          (Sentence.ofTexts (first :: others)).pairs := by
        simp [tagging, Sentence.ofTexts, Sentence.pairs, Sentence.others, unpaired]
      rw [Sentence.content, Sentence.content, Sentence.attributes, Sentence.attributes, pairs_eq]
      rfl

end RouterApi
