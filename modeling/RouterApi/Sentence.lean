import RouterApi.Assoc
import RouterApi.Value

/-!
# Sentences

A sentence is a list of words. The first word is a control word, on sentences from the device, or a
command path. Among the others, `=key=value` words are attributes, a `.tag=` word names the request
that the sentence belongs to, and everything else is only carried along.
-/

namespace RouterApi

/-- A sentence: no words at all, or a first word and the others. The device sends texts only; the
first word of a sentence that a caller makes may be any value. -/
inductive Sentence
  | empty
  | opening (first : Value) (others : List Text)
  deriving DecidableEq, Repr

/-- What the first word of a sentence from the device announces. -/
inductive Control
  | data
  | done
  | empty
  | trap
  | fatal
  | blank
  | unknown
  deriving DecidableEq, Repr

namespace Word

/-- The start of the word that carries a tag. -/
def tagMark : Text := literal ".tag="

/-- The start of an attribute word. -/
def attributeMark : Text := literal "="

/-- Split an attribute word, after its first code point, at the first equal sign into key and value;
without one the value is empty. -/
def parse (word : Text) : Text × Text :=
  match Text.splitAtFirst? (CodePoint.ofChar '=') (word.drop 1) with
  | some pair => pair
  | none => (word.drop 1, [])

/-- The keys whose values are never shown. -/
def secretKeys : List Text := [literal "password", literal "response"]

/-- What is shown in place of a secret value. -/
def mask : Text := literal "***"

/-- Whether the values of a key are never shown. -/
def isSecret : Value → Bool
  | .text key => secretKeys.contains key
  | _ => false

end Word

/-- Attributes with the values of secret keys replaced. -/
def maskedPairs (pairs : List (Value × Value)) : List (Value × Value) :=
  pairs.map fun (key, value) => (key, if Word.isSecret key then .text Word.mask else value)

namespace Sentence

/-- The sentence of the given texts. -/
def ofTexts : List Text → Sentence
  | [] => empty
  | first :: others => opening (.text first) others

/-- The words in order. -/
def words : Sentence → List Value
  | empty => []
  | opening first others => first :: others.map .text

@[simp] theorem words_ofTexts (contents : List Text) :
    (ofTexts contents).words = contents.map .text := by
  cases contents <;> rfl

/-- The first word, or an empty text. -/
def word : Sentence → Value
  | empty => .text []
  | opening first _ => first

/-- The words after the first. -/
def others : Sentence → List Text
  | empty => []
  | opening _ others => others

/-- Whether two sentences have the same words. -/
def sameWords (first second : Sentence) : Bool :=
  first.words.length == second.words.length &&
    (first.words.zip second.words).all fun (word, other) => word.sameKey other

/-- The tag carried by a word, if it carries one. -/
def tagOf? (word : Text) : Option Text :=
  if Word.tagMark.isPrefixOf word then some (word.drop Word.tagMark.length) else none

/-- The attribute carried by a word, if it carries one and no tag. -/
def pairOf? (word : Text) : Option (Text × Text) :=
  if (tagOf? word).isSome then none
  else if Word.attributeMark.isPrefixOf word then some (Word.parse word)
  else none

/-- The tag of a sentence: that of its last tag word after the first word. -/
def tag (sentence : Sentence) : Option Text :=
  sentence.others.foldl (fun found word => (tagOf? word).or found) none

/-- The attributes in order, duplicates included. -/
def pairs (sentence : Sentence) : List (Text × Text) :=
  sentence.others.filterMap pairOf?

/-- The attributes by key; the last duplicate wins. -/
def attributes (sentence : Sentence) : Assoc Text Text :=
  Assoc.ofList sentence.pairs

/-- The value of an attribute. -/
def attribute? (key : Text) (sentence : Sentence) : Option Text :=
  sentence.attributes.get? key

/-- The control words that a reply can open with. -/
def controlWords : List (Text × Control) := [
  (literal "!re", .data), (literal "!done", .done), (literal "!empty", .empty),
  (literal "!trap", .trap), (literal "!fatal", .fatal), ([], .blank)]

/-- What the first word of a sentence announces; one that is no text announces nothing known. -/
def control (sentence : Sentence) : Control :=
  match sentence.word with
  | .text content => (controlWords.lookup content).getD .unknown
  | _ => .unknown

/-- How a sentence is shown in logs: its first word, its tag, and its attributes with the secret
values replaced. -/
def summary (sentence : Sentence) : Text :=
  let pairs := sentence.pairs.map fun (key, value) => (Value.text key, Value.text value)
  let shown := (maskedPairs pairs).map fun (key, value) => Text.paired key.quoted value.quoted
  sentence.word.toText ++ literal " @" ++ sentence.tag.getD (literal "None") ++ literal " " ++
    Text.bracketed shown

/-- A sentence with all its words, as shown to a developer. -/
def inspect (sentence : Sentence) : Text :=
  literal "Sentence(" ++ Text.bracketed (sentence.words.map Value.quoted) ++ literal ")"

end Sentence
end RouterApi
