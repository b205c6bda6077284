import RouterApi.Error

/-!
# Words of a command

The words that a caller sends: a command path, attributes, queries and a tag. A word is a text,
which is encoded when it is sent, or bytes, which are sent as they are; any other value is refused
when it is sent or shown. In logs the values of secret attributes are replaced.
-/

namespace RouterApi

/-- A word to be sent. -/
abbrev Word := Value

namespace Word

/-- The word that sets an attribute to a value. -/
def ofAttribute (key : Text) (value : Value) : Text :=
  attributeMark ++ key ++ literal "=" ++ value.toText

/-- The word that matches entries by the value of an attribute or, without a value, by its presence,
for which the key must be a text. -/
def ofQuery : Value → Value → Except Error Text
  | .text key, .null => .ok (literal "?" ++ key)
  | _, .null => .error (.unsupported .type)
  | key, value => .ok (literal "?" ++ key.toText ++ literal "=" ++ value.toText)

/-- The word that names the request a sentence belongs to. -/
def ofTag (value : Value) : Text :=
  tagMark ++ value.toText

/-- Split a word that must be a text into key and value. -/
def parseText : Word → Except Error (Text × Text)
  | .text word => .ok (parse word)
  | _ => .error (.unsupported .type)

/-- A word with its value replaced if it is an attribute with a secret key. -/
def masked (word : Text) : Text :=
  if attributeMark.isPrefixOf word && secretKeys.contains (parse word).1 then
    ofAttribute (parse word).1 (.text mask)
  else word

/-- The texts that words are; the first word that is no text is an error. -/
def texts : List Word → Except Error (List Text)
  | [] => .ok []
  | word :: rest =>
      match word.asText with
      | .error error => .error error
      | .ok content => (texts rest).map (content :: ·)

/-- The words of a command as they may be shown; only texts can be shown. -/
def maskedAll (words : List Word) : Except Error (List Text) :=
  (texts words).map fun contents => contents.map masked

end Word

/-- The sentence of words that a caller gives; all but the first must be texts. -/
def Sentence.ofWords : List Word → Except Error Sentence
  | [] => .ok empty
  | first :: others => (Word.texts others).map (opening first)

end RouterApi
