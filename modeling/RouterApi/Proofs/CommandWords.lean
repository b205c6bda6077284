import RouterApi.Proofs.Assoc
import RouterApi.Proofs.Masking
import RouterApi.Proofs.Wire.RoundTrip

/-!
# Words of a command

The words after the path of a command are attributes, queries and tags. Whatever a key or a value
contains, the word that is built of it is read as just that: an attribute as its key and its value,
a tag as the tag, and a query as neither. So a command that is sent arrives with the attributes and
the tag that went into it.
-/

namespace RouterApi

/-! ## Words -/

namespace Sentence

theorem tagOf?_ofTag (value : Value) : tagOf? (Word.ofTag value) = some value.toText := by
  have marked : Word.tagMark.isPrefixOf (Word.ofTag value) = true :=
    List.isPrefixOf_iff_prefix.mpr (List.prefix_append _ _)
  rw [tagOf?, if_pos marked, Word.ofTag, List.drop_left]

theorem pairOf?_ofTag (value : Value) : pairOf? (Word.ofTag value) = none := by
  rw [pairOf?, tagOf?_ofTag]
  rfl

/-- The tag of a sentence is the last of its tags. -/
theorem tag_eq_getLast? (sentence : Sentence) :
    sentence.tag = (sentence.others.filterMap tagOf?).getLast? := by
  unfold tag
  induction sentence.others using List.reverseRecOn with
  | nil => rfl
  | append_singleton earlier word inductionHypothesis =>
      rw [List.foldl_append, List.filterMap_append, inductionHypothesis, List.foldl_cons,
        List.foldl_nil]
      cases carried : tagOf? word with
      | none => rw [List.filterMap_cons_none carried, List.filterMap_nil, List.append_nil]; rfl
      | some tag =>
          rw [List.filterMap_cons_some carried, List.filterMap_nil, List.getLast?_concat]
          rfl

end Sentence

/-- A part of a command after its path: an attribute, whose key has no equal sign, a query, with or
without a value, or a tag. -/
inductive CommandPart
  | pair (key value : Text) (plain : CodePoint.ofChar '=' ∉ key)
  | query (key : Text) (value : Option Text)
  | tag (content : Text)

namespace CommandPart

/-- Build the word of a part. -/
def build : CommandPart → Except Error Text
  | pair key value _ => .ok (Word.ofAttribute key (.text value))
  | query key value => Word.ofQuery (.text key) (value.elim .null .text)
  | tag content => .ok (Word.ofTag (.text content))

/-- The texts that a part is made of. -/
def texts : CommandPart → List Text
  | pair key value _ => [key, value]
  | query key value => key :: value.toList
  | tag content => [content]

/-- The attribute that a part sets, if it is one. -/
def pair? : CommandPart → Option (Text × Text)
  | pair key value _ => some (key, value)
  | query _ _ | tag _ => none

/-- The tag that a part gives, if it is one. -/
def tag? : CommandPart → Option Text
  | tag content => some content
  | pair _ _ _ | query _ _ => none

/-- The word of a part. -/
def word : CommandPart → Text
  | pair key value _ => Word.ofAttribute key (.text value)
  | query key none => literal "?" ++ key
  | query key (some value) => literal "?" ++ key ++ literal "=" ++ value
  | tag content => Word.ofTag (.text content)

variable {part : CommandPart} {parts : List CommandPart} {path : Text}

theorem build_eq (part : CommandPart) : part.build = .ok part.word := by
  cases part with
  | pair | tag => rfl
  | query key value =>
      cases value with
      | none | some value => rfl

theorem mapM_build (parts : List CommandPart) : parts.mapM build = .ok (parts.map word) := by
  induction parts with
  | nil => rfl
  | cons part parts inductionHypothesis =>
      rw [List.mapM_cons, build_eq, inductionHypothesis]
      rfl

theorem word_ne_nil (part : CommandPart) : part.word ≠ [] := by
  cases part with
  | pair | tag => exact nofun
  | query key value =>
      cases value with
      | none | some value => exact nofun

/-- A word has no surrogates if the texts that it is made of have none. -/
theorem plain_word
    (plain : ∀ text ∈ part.texts, ∀ point ∈ text, point.isSurrogate = false) :
    ∀ point ∈ part.word, point.isSurrogate = false := by
  have marks (content : String) : ∀ point ∈ literal content, point.isSurrogate = false :=
    fun _ => CodePoint.isSurrogate_of_mem_literal
  cases part with
  | pair key value =>
      obtain ⟨plainKey, plainValue⟩ := List.forall_mem_cons.mp plain
      simp only [word, Word.ofAttribute, Word.attributeMark, List.forall_mem_append]
      exact ⟨⟨⟨marks _, plainKey⟩, marks _⟩, List.forall_mem_singleton.mp plainValue⟩
  | tag content =>
      simp only [word, Word.ofTag, Word.tagMark, List.forall_mem_append]
      exact ⟨marks _, List.forall_mem_singleton.mp plain⟩
  | query key value =>
      obtain ⟨plainKey, plainValue⟩ := List.forall_mem_cons.mp plain
      cases value with
      | none =>
          simp only [word, List.forall_mem_append]
          exact ⟨marks _, plainKey⟩
      | some value =>
          simp only [word, List.forall_mem_append]
          exact ⟨⟨⟨marks _, plainKey⟩, marks _⟩, List.forall_mem_singleton.mp plainValue⟩

theorem tagOf?_word (part : CommandPart) : Sentence.tagOf? part.word = part.tag? := by
  cases part with
  | pair key value => exact Sentence.tagOf?_ofAttribute key (.text value)
  | tag content => exact Sentence.tagOf?_ofTag (.text content)
  | query key value =>
      cases value with
      | none | some value => rfl

theorem pairOf?_word (part : CommandPart) : Sentence.pairOf? part.word = part.pair? := by
  cases part with
  | pair key value plain => exact Sentence.pairOf?_ofAttribute plain (.text value)
  | tag content => exact Sentence.pairOf?_ofTag (.text content)
  | query key value =>
      cases value with
      | none | some value => rfl

end CommandPart

/-! ## Sentences -/

/-- A sentence is made of a path and parts if its words are theirs, its attributes are those of the
parts, in order, and its tag is the last of theirs. By key, each attribute has the last of its
values, and there are no others. -/
structure Sentence.IsMadeOf
    (sentence : Sentence)
    (path : Text)
    (parts : List CommandPart) : Prop where
  words_eq : sentence.words = .text path :: parts.map fun part => .text part.word
  word_eq : sentence.word = .text path
  pairs_eq : sentence.pairs = parts.filterMap CommandPart.pair?
  attribute?_eq : ∀ key, sentence.attribute? key =
    (((parts.filterMap CommandPart.pair?).filter (·.1 == key)).getLast?).map Prod.snd
  mem_keys_iff : ∀ key, key ∈ sentence.attributes.keys ↔
    ∃ value, (key, value) ∈ parts.filterMap CommandPart.pair?
  nodup_keys : sentence.attributes.keys.Nodup
  tag_eq : sentence.tag = (parts.filterMap CommandPart.tag?).getLast?

/-- The words of a command are read as what they are built of. -/
theorem CommandPart.isMadeOf
    (path : Text)
    (parts : List CommandPart) :
    (Sentence.ofTexts (path :: parts.map word)).IsMadeOf path parts := by
  have pairs_eq : (Sentence.ofTexts (path :: parts.map word)).pairs = parts.filterMap pair? := by
    rw [Sentence.pairs, Sentence.ofTexts, Sentence.others, List.filterMap_map]
    apply List.filterMap_congr
    intro part _
    exact pairOf?_word part
  have tags_eq : (Sentence.ofTexts (path :: parts.map word)).others.filterMap Sentence.tagOf? =
      parts.filterMap tag? := by
    rw [Sentence.ofTexts, Sentence.others, List.filterMap_map]
    apply List.filterMap_congr
    intro part _
    exact tagOf?_word part
  refine
    { words_eq := ?_
      word_eq := rfl
      pairs_eq
      attribute?_eq := fun key => ?_
      mem_keys_iff := fun key => ?_
      nodup_keys := Assoc.nodup_keys_ofList _
      tag_eq := ?_ }
  · rw [Sentence.words_ofTexts, List.map_cons, List.map_map]
    rfl
  · rw [Sentence.attribute?, Sentence.attributes, Assoc.get?_ofList, pairs_eq]
  · rw [Sentence.attributes, Assoc.mem_keys_ofList_iff, pairs_eq, List.mem_map]
    simp only [Prod.exists, exists_eq_right, exists_and_right]
  · rw [Sentence.tag_eq_getLast?, tags_eq]

/-- A command without surrogates can be sent in UTF-8 unless one of its words is too long, and it
arrives as it was built: no key, value or tag, whatever it contains, makes more of its word, hides
another one, or changes what is read from it. -/
theorem CommandPart.isMadeOf_of_sent
    {encoding : Value}
    {path : Text}
    {parts : List CommandPart}
    (isKnown : Encoding.charset encoding = .ok .utf8)
    (occupied : path ≠ [])
    (plain : ∀ text ∈ path :: parts.flatMap texts, ∀ point ∈ text, point.isSurrogate = false) :
    ∃ words, parts.mapM build = .ok words ∧
      ((∃ data, Wire.encodeSentence encoding ((path :: words).map .text) = .ok data) ↔
        ∀ word ∈ path :: words,
          (word.flatMap Utf8.encodePoint).length ≤ LengthPrefix.maximum) ∧
      ∀ data, Wire.encodeSentence encoding ((path :: words).map .text) = .ok data →
        Wire.decodeSentence encoding data = .ok (path :: words) ∧
        (Sentence.ofTexts (path :: words)).IsMadeOf path parts := by
  obtain ⟨plainPath, plainParts⟩ := List.forall_mem_cons.mp plain
  have plainWords : ∀ content ∈ path :: parts.map word, ∀ point ∈ content,
      point.isSurrogate = false := by
    refine List.forall_mem_cons.mpr ⟨plainPath, List.forall_mem_map.mpr fun part member => ?_⟩
    exact plain_word fun text made =>
      plainParts text (List.mem_flatMap.mpr ⟨part, member, made⟩)
  have occupiedWords : ∀ content ∈ path :: parts.map word, content ≠ [] :=
    List.forall_mem_cons.mpr ⟨occupied, List.forall_mem_map.mpr fun part _ => part.word_ne_nil⟩
  refine ⟨parts.map word, mapM_build parts, ?sent, ?received⟩
  case sent =>
    rw [Wire.exists_encodeSentence_iff_of_plain isKnown plainWords]
    exact forall₂_congr fun content member => and_iff_right (occupiedWords content member)
  case received =>
    intro data sent
    exact ⟨Wire.decodeSentence_of_plain isKnown plainWords sent, isMadeOf path parts⟩

/-- Parts whose texts look like other words, like tags and like the end of a sentence. -/
def CommandPart.posing : List CommandPart := [
  .pair (literal "comment") (literal "a==.tag=5\n!done") (by decide),
  .query (literal "=name") (some (literal ".tag=8")),
  .tag (literal "!done"),
  .pair (literal ".tag") (literal "\x00=é") (by decide),
  .pair (literal "comment") [] (by decide),
  .tag (literal "=disabled=no"),
  .query (literal ".tag=9") none]

/-- They arrive as what they are. -/
theorem CommandPart.isMadeOf_posing :
    Encoding.charset (.text Charset.utf8.commonName) = .ok .utf8 ∧
    literal "/add" ≠ [] ∧
    (∀ text ∈ literal "/add" :: posing.flatMap texts, ∀ point ∈ text,
      point.isSurrogate = false) ∧
    ∃ data sentence, (Wire.decodeSentence (.text Charset.utf8.commonName) data).map
        Sentence.ofTexts = .ok sentence ∧
      sentence.pairs = [(literal "comment", literal "a==.tag=5\n!done"),
        (literal ".tag", literal "\x00=é"), (literal "comment", [])] ∧
      sentence.attribute? (literal "comment") = some [] ∧
      sentence.tag = some (literal "=disabled=no") := by
  have isKnown := Encoding.charset_commonName .utf8
  have occupied : literal "/add" ≠ [] := by decide
  have plain : ∀ text ∈ literal "/add" :: posing.flatMap texts, ∀ point ∈ text,
      point.isSurrogate = false := by
    have texts_eq : literal "/add" :: posing.flatMap texts =
        ["/add", "comment", "a==.tag=5\n!done", "=name", ".tag=8", "!done", ".tag", "\x00=é",
          "comment", "", "=disabled=no", ".tag=9"].map literal := rfl
    rw [texts_eq, List.forall_mem_map]
    exact fun _ _ _ => CodePoint.isSurrogate_of_mem_literal
  obtain ⟨words, built, isSent, received⟩ := isMadeOf_of_sent isKnown occupied plain
  obtain rfl := Except.ok.inj ((mapM_build posing).symm.trans built)
  have short : ∀ content ∈ literal "/add" :: posing.map word,
      (content.flatMap Utf8.encodePoint).length < 0x40 := by decide +kernel
  obtain ⟨data, sent⟩ := isSent.mpr fun content member =>
    Nat.le_trans (Nat.le_of_lt (short content member)) (by decide)
  obtain ⟨decoded, isMadeOf⟩ := received data sent
  refine ⟨isKnown, occupied, plain, data, _, congrArg (Except.map Sentence.ofTexts) decoded,
    isMadeOf.pairs_eq, ?_, isMadeOf.tag_eq⟩
  rw [isMadeOf.attribute?_eq]
  decide

end RouterApi
