import RouterApi.Wire.Encoder

/-!
# Errors about words

Words can fail to be encoded or to be shown. None of the errors that this gives is one that the API
itself defines.
-/

namespace RouterApi

namespace Encoding

theorem isApi_of_charset_eq_error
    {encoding : Value}
    {error : Error}
    (failed : charset encoding = .error error) :
    error.kind.isApi = false := by
  unfold charset at failed
  split at failed
  · split at failed
    · cases failed
      rfl
    · split at failed
      · cases failed
        rfl
      · split at failed
        · cases failed
        · cases failed
          rfl
  · cases failed
    rfl

theorem isApi_of_encode_eq_error
    {encoding : Value}
    {content : Text}
    {error : Error}
    (failed : encode encoding content = .error error) :
    error.kind.isApi = false := by
  unfold encode at failed
  split at failed
  · rename_i reason unknown
    cases failed
    exact isApi_of_charset_eq_error unknown
  · split at failed
    · cases failed
    · cases failed
      rfl

theorem isApi_of_decode_eq_error
    {encoding : Value}
    {content : Bytes}
    {error : Error}
    (failed : decode encoding content = .error error) :
    error.kind.isApi = false := by
  unfold decode at failed
  split at failed
  · rename_i reason unknown
    cases failed
    exact isApi_of_charset_eq_error unknown
  · cases failed

end Encoding

namespace Wire

theorem isApi_of_encodeWord_eq_error
    {encoding : Value}
    {word : Word}
    {error : Error}
    (failed : encodeWord encoding word = .error error) :
    error.kind.isApi = false := by
  unfold encodeWord at failed
  split at failed
  · rename_i reason unwritable
    cases failed
    unfold wordBytes at unwritable
    split at unwritable
    · exact Encoding.isApi_of_encode_eq_error unwritable
    · cases unwritable
    · cases unwritable
      rfl
  · split at failed
    · cases failed
    · cases failed
      rfl

theorem isApi_of_encodeWords_eq_error
    {encoding : Value}
    {words : List Word}
    {error : Error}
    (failed : encodeWords encoding words = .error error) :
    error.kind.isApi = false := by
  induction words with
  | nil => cases failed
  | cons word later inductionHypothesis =>
      unfold encodeWords at failed
      split at failed
      · cases failed
        rfl
      · split at failed
        · rename_i reason unwritable
          cases failed
          exact isApi_of_encodeWord_eq_error unwritable
        · split at failed
          · rename_i reason unwritable
            cases failed
            exact inductionHypothesis unwritable
          · cases failed

/-- An error about the words of a sentence is none of the API. -/
theorem isApi_of_encodeSentence_eq_error
    {encoding : Value}
    {words : List Word}
    {error : Error}
    (failed : encodeSentence encoding words = .error error) :
    error.kind.isApi = false := by
  unfold encodeSentence at failed
  split at failed
  · rename_i reason unwritable
    cases failed
    exact isApi_of_encodeWords_eq_error unwritable
  · cases failed

end Wire

namespace Word

theorem isApi_of_texts_eq_error
    {words : List Word}
    {error : Error}
    (failed : texts words = .error error) :
    error.kind.isApi = false := by
  induction words with
  | nil => cases failed
  | cons word later inductionHypothesis =>
      unfold texts at failed
      split at failed
      · rename_i reason notText
        cases failed
        unfold Value.asText at notText
        split at notText
        · cases notText
        · cases notText
          rfl
        · cases notText
          rfl
      · cases others : texts later with
        | ok contents => simp [others, Except.map] at failed
        | error reason =>
            simp only [others, Except.map, Except.error.injEq] at failed
            subst failed
            exact inductionHypothesis others

/-- An error about words that cannot be shown is none of the API. -/
theorem isApi_of_maskedAll_eq_error
    {words : List Word}
    {error : Error}
    (failed : maskedAll words = .error error) :
    error.kind.isApi = false := by
  unfold maskedAll at failed
  cases contents : texts words with
  | ok contents => simp [contents, Except.map] at failed
  | error reason =>
      simp only [contents, Except.map, Except.error.injEq] at failed
      subst failed
      exact isApi_of_texts_eq_error contents

end Word

end RouterApi
