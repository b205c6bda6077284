import RouterApi.Proofs.Assoc
import RouterApi.Proofs.Masking
import RouterApi.Proofs.Wire.RoundTrip
import RouterApi.Record

/-!
# Round trips of records

A record that is written as attribute words and read again has the fields that were written, with
their values. Other words may stand anywhere between, as long as they set none of the attributes,
and the words may travel as bytes. This only needs of each field that its value is read from the
text in which it is written.
-/

namespace RouterApi

/-- The attribute words of a key decide on the attribute. -/
theorem Attributes.get?_ofSentence_opening
    (key : Text)
    (first : Value)
    (others : List Text) :
    Assoc.get? key (Attributes.ofSentence (.opening first others)) =
      (Assoc.get? key (Assoc.ofList
        ((others.filterMap Sentence.pairOf?).filter (·.1 == key)))).map .text := by
  rw [Assoc.get?_ofList_filter, Attributes.ofSentence, Assoc.get?_map]
  rfl

namespace Binding

variable {binding : Binding} {bindings rest : List Binding} {record : Record} {skip : List Text}
  {earlier : Record} {value : Value} {attributes : Attributes} {content : Text}
  {words others : List Text}

/-! ## What is written -/

/-- The value that is written for a binding: none if its field is skipped, absent or null. -/
def value? (record : Record) (skip : List Text) (binding : Binding) : Option Value :=
  if skip.contains binding.name then none
  else (Assoc.get? binding.name record).filter (· != .null)

/-- The fields of a record that are written, in order, with their values. -/
def kept (record : Record) (skip : List Text) (bindings : List Binding) : Record :=
  bindings.filterMap fun binding => (binding.value? record skip).map (binding.name, ·)

/-- The text in which a value is written. -/
def text? (binding : Binding) (value : Value) : Option Text :=
  match binding.format value with
  | .ok formatted => if formatted.isWritable then some formatted.toText else none
  | .error _ => none

/-- The attribute that is written for a binding. -/
def pair? (record : Record) (skip : List Text) (binding : Binding) : Option (Text × Text) :=
  ((binding.value? record skip).bind binding.text?).map (binding.attributeName, ·)

/-- A binding preserves a value if it is read from the text in which it is written. -/
def Preserves (binding : Binding) (value : Value) : Prop :=
  ∃ content ∈ binding.text? value, binding.parse (.text content) = .ok value

instance : Decidable (binding.Preserves value) :=
  inferInstanceAs (Decidable (∃ content ∈ binding.text? value,
    binding.parse (.text content) = .ok value))

theorem text?_eq_some_iff :
    binding.text? value = some content ↔
      ∃ formatted, binding.format value = .ok formatted ∧ formatted.isWritable = true ∧
        formatted.toText = content := by
  unfold text?
  cases formatting : binding.format value with
  | error error => simp
  | ok formatted => simp

/-- For a value that is formatted as a text this says that reading undoes formatting. -/
theorem preserves_iff_of_format
    (formatted : binding.format value = .ok (.text content)) :
    binding.Preserves value ↔ binding.parse (.text content) = .ok value := by
  have written : binding.text? value = some content := by
    rw [text?, formatted]
    rfl
  simp [Preserves, written]

/-- A list of bindings preserves a record if each of them preserves the value written for it. -/
def PreserveAll (bindings : List Binding) (record : Record) (skip : List Text) : Prop :=
  ∀ binding ∈ bindings, ∀ value ∈ binding.value? record skip, binding.Preserves value

instance : Decidable (PreserveAll bindings record skip) :=
  inferInstanceAs (Decidable (∀ binding ∈ bindings, ∀ value ∈ binding.value? record skip,
    binding.Preserves value))

/-- The names of distinct bindings are distinct, and so are the attributes, whose names contain no
equal sign. -/
structure AreDistinct (bindings : List Binding) : Prop where
  names : (bindings.map name).Nodup
  attributeNames : (bindings.map attributeName).Nodup
  plain : ∀ binding ∈ bindings, CodePoint.ofChar '=' ∉ binding.attributeName

instance : Decidable (AreDistinct bindings) :=
  decidable_of_iff
    ((bindings.map name).Nodup ∧ (bindings.map attributeName).Nodup ∧
      ∀ binding ∈ bindings, CodePoint.ofChar '=' ∉ binding.attributeName)
    ⟨fun ⟨names, attributeNames, plain⟩ => ⟨names, attributeNames, plain⟩,
      fun ⟨names, attributeNames, plain⟩ => ⟨names, attributeNames, plain⟩⟩

theorem AreDistinct.tail
    (areDistinct : AreDistinct (binding :: bindings)) :
    AreDistinct bindings where
  names := (List.nodup_cons.mp areDistinct.names).2
  attributeNames := (List.nodup_cons.mp areDistinct.attributeNames).2
  plain := (List.forall_mem_cons.mp areDistinct.plain).2

/-! ## Writing -/

theorem encode_cons_of_absent
    (absent : binding.value? record skip = none) :
    encode record skip (binding :: rest) = encode record skip rest := by
  unfold value? at absent
  rw [encode]
  split
  · rfl
  · rename_i listed
    rw [if_neg listed] at absent
    cases found : Assoc.get? binding.name record with
    | none => rfl
    | some value =>
        rw [found, Option.filter_eq_none_iff] at absent
        have null := absent value rfl
        rw [bne_iff_ne, ne_eq, not_not] at null
        rw [null]

theorem encode_cons_of_present
    (present : binding.value? record skip = some value)
    (written : binding.text? value = some content) :
    encode record skip (binding :: rest) =
      (encode record skip rest).map
        (Word.ofAttribute binding.attributeName (.text content) :: ·) := by
  obtain ⟨formatted, formatting, isWritable, rfl⟩ := text?_eq_some_iff.mp written
  unfold value? at present
  split at present
  · cases present
  · rename_i listed
    obtain ⟨found, given⟩ := Option.filter_eq_some_iff.mp present
    rw [bne_iff_ne] at given
    rw [encode, if_neg listed, found]
    cases value with
    | null => exact absurd rfl given
    | _ =>
        simp only [formatting, isWritable, if_true]
        rfl

/-- A record that is preserved can be written, as its attributes in order. -/
theorem exists_encode
    (areDistinct : AreDistinct bindings)
    (preserveAll : PreserveAll bindings record skip) :
    ∃ words, encode record skip bindings = .ok words ∧
      words.filterMap Sentence.pairOf? = bindings.filterMap (pair? record skip) := by
  induction bindings with
  | nil => exact ⟨[], rfl, rfl⟩
  | cons binding rest inductionHypothesis =>
      obtain ⟨preserves, preserveRest⟩ := List.forall_mem_cons.mp preserveAll
      obtain ⟨words, encoded, pairs⟩ := inductionHypothesis areDistinct.tail preserveRest
      cases keeping : binding.value? record skip with
      | none =>
          refine ⟨words, by rw [encode_cons_of_absent keeping, encoded], ?_⟩
          rw [List.filterMap_cons_none (by rw [pair?, keeping]; rfl), pairs]
      | some value =>
          obtain ⟨content, written, -⟩ := preserves value keeping
          refine ⟨_, by rw [encode_cons_of_present keeping written, encoded]; rfl, ?_⟩
          have plain := areDistinct.plain binding List.mem_cons_self
          have pair : pair? record skip binding = some (binding.attributeName, content) := by
            rw [pair?, keeping, Option.bind_some, Option.mem_def.mp written]
            rfl
          rw [List.filterMap_cons_some (Sentence.pairOf?_ofAttribute plain _),
            List.filterMap_cons_some pair, pairs]
          rfl

/-! ## Further words -/

/-- Whether a word sets none of the attributes of bindings. -/
def IsFurther (bindings : List Binding) (word : Text) : Prop :=
  ∀ pair ∈ Sentence.pairOf? word, pair.1 ∉ bindings.map attributeName

instance (bindings : List Binding) (word : Text) : Decidable (IsFurther bindings word) :=
  inferInstanceAs (Decidable (∀ pair ∈ Sentence.pairOf? word,
    pair.1 ∉ bindings.map attributeName))

/-- Words with any number of further ones between them. -/
inductive IsPadded (bindings : List Binding) : List Text → List Text → Prop
  | nil : IsPadded bindings [] []
  | word (word : Text) {words others : List Text} (later : IsPadded bindings words others) :
      IsPadded bindings (word :: words) (word :: others)
  | further {word : Text} {words others : List Text} (isFurther : IsFurther bindings word)
      (later : IsPadded bindings words others) : IsPadded bindings words (word :: others)

/-- Further words give no value to the attribute of a binding. -/
theorem IsPadded.filter_pairs
    (isPadded : IsPadded bindings words others)
    (member : binding ∈ bindings) :
    (others.filterMap Sentence.pairOf?).filter (·.1 == binding.attributeName) =
      (words.filterMap Sentence.pairOf?).filter (·.1 == binding.attributeName) := by
  induction isPadded with
  | nil => rfl
  | word word later inductionHypothesis =>
      cases pair : Sentence.pairOf? word with
      | none =>
          rw [List.filterMap_cons_none pair, List.filterMap_cons_none pair, inductionHypothesis]
      | some given =>
          rw [List.filterMap_cons_some pair, List.filterMap_cons_some pair, List.filter_cons,
            List.filter_cons, inductionHypothesis]
  | @further word _ _ isFurther later inductionHypothesis =>
      cases pair : Sentence.pairOf? word with
      | none => rw [List.filterMap_cons_none pair, inductionHypothesis]
      | some given =>
          have different : (given.1 == binding.attributeName) = false := by
            rw [beq_eq_false_iff_ne]
            intro same
            exact isFurther given pair (same ▸ List.mem_map_of_mem member)
          rw [List.filterMap_cons_some pair, List.filter_cons, different, inductionHypothesis]
          rfl

/-! ## Reading -/

theorem fst_of_pair?
    {pair : Text × Text}
    (written : binding.pair? record skip = some pair) :
    pair.1 = binding.attributeName := by
  obtain ⟨content, -, rfl⟩ := Option.map_eq_some_iff.mp written
  rfl

/-- Of the attributes that are written, each belongs to one binding. -/
theorem AreDistinct.filter_pairs
    (areDistinct : AreDistinct bindings)
    (member : binding ∈ bindings) :
    (bindings.filterMap (pair? record skip)).filter (·.1 == binding.attributeName) =
      (binding.pair? record skip).toList := by
  induction bindings with
  | nil => cases member
  | cons first rest inductionHypothesis =>
      have apart := (List.nodup_cons.mp areDistinct.attributeNames).1
      have cons_eq : (first :: rest).filterMap (pair? record skip) =
          (first.pair? record skip).toList ++ rest.filterMap (pair? record skip) := by
        cases pair : first.pair? record skip with
        | none => rw [List.filterMap_cons_none pair]; rfl
        | some given => rw [List.filterMap_cons_some pair]; rfl
      rw [cons_eq, List.filter_append]
      rcases List.mem_cons.mp member with rfl | later
      · have own : (binding.pair? record skip).toList.filter (·.1 == binding.attributeName) =
            (binding.pair? record skip).toList := by
          rw [List.filter_eq_self]
          intro pair written
          exact beq_iff_eq.mpr (fst_of_pair? (Option.mem_toList.mp written))
        have others : (rest.filterMap (pair? record skip)).filter
            (·.1 == binding.attributeName) = [] := by
          rw [List.filter_eq_nil_iff]
          intro pair written same
          obtain ⟨other, listed, written⟩ := List.mem_filterMap.mp written
          rw [fst_of_pair? written] at same
          exact apart (eq_of_beq same ▸ List.mem_map_of_mem listed)
        rw [own, others, List.append_nil]
      · have own : (first.pair? record skip).toList.filter (·.1 == binding.attributeName) =
            [] := by
          rw [List.filter_eq_nil_iff]
          intro pair written same
          rw [fst_of_pair? (Option.mem_toList.mp written)] at same
          exact apart (eq_of_beq same ▸ List.mem_map_of_mem later)
        rw [own, inductionHypothesis areDistinct.tail later, List.nil_append]

/-- In a sentence with padded words, the attribute of a binding is the one that was written. -/
theorem get?_of_isPadded
    (areDistinct : AreDistinct bindings)
    (pairs : words.filterMap Sentence.pairOf? = bindings.filterMap (pair? record skip))
    (isPadded : IsPadded bindings words others)
    (member : binding ∈ bindings)
    (first : Value) :
    Assoc.get? binding.attributeName (Attributes.ofSentence (.opening first others)) =
      (binding.pair? record skip).map fun pair => .text pair.2 := by
  rw [Attributes.get?_ofSentence_opening, isPadded.filter_pairs member, pairs,
    areDistinct.filter_pairs member]
  cases written : binding.pair? record skip with
  | none => rfl
  | some pair =>
      obtain ⟨key, content⟩ := pair
      obtain rfl : key = binding.attributeName := fst_of_pair? written
      simp [Assoc.ofList, Assoc.set, Assoc.get?]

/-- Fields are added to a record in order, each with the value that was written. -/
theorem decodeOnto_eq
    (names : (Assoc.keys earlier ++ bindings.map name).Nodup)
    (preserveAll : PreserveAll bindings record skip)
    (present : ∀ binding ∈ bindings, Assoc.get? binding.attributeName attributes =
      (binding.pair? record skip).map fun pair => .text pair.2) :
    decodeOnto attributes earlier bindings = .ok (earlier ++ kept record skip bindings) := by
  induction bindings generalizing earlier with
  | nil => rw [decodeOnto, kept, List.filterMap_nil, List.append_nil]
  | cons binding rest inductionHypothesis =>
      obtain ⟨found, foundLater⟩ := List.forall_mem_cons.mp present
      obtain ⟨preserves, preserveRest⟩ := List.forall_mem_cons.mp preserveAll
      cases keeping : binding.value? record skip with
      | none =>
          have namesLater : (Assoc.keys earlier ++ rest.map name).Nodup :=
            names.sublist (List.Sublist.append_left (List.sublist_cons_self _ _) _)
          have kept_eq : kept record skip (binding :: rest) = kept record skip rest :=
            List.filterMap_cons_none (by rw [keeping]; rfl)
          simp only [decodeOnto, found, pair?, keeping, Option.bind_none, Option.map_none]
          rw [inductionHypothesis namesLater preserveRest foundLater, kept_eq]
      | some value =>
          obtain ⟨content, written, read⟩ := preserves value keeping
          have new : binding.name ∉ Assoc.keys earlier := fun known =>
            (List.nodup_append.mp names).2.2 _ known _ List.mem_cons_self rfl
          have set_eq := Assoc.set_of_get?_eq_none ((Assoc.get?_eq_none_iff _ _).mpr new) value
          have namesLater : (Assoc.keys (earlier ++ [(binding.name, value)]) ++
              rest.map name).Nodup := by
            rw [Assoc.keys, List.map_append, List.append_assoc]
            exact names
          have kept_eq : kept record skip (binding :: rest) =
              (binding.name, value) :: kept record skip rest :=
            List.filterMap_cons_some (by rw [keeping]; rfl)
          simp only [decodeOnto, found, pair?, keeping, Option.bind_some,
            Option.mem_def.mp written, Option.map_some, read, set_eq]
          rw [inductionHypothesis namesLater preserveRest foundLater, kept_eq, List.append_assoc]
          rfl

/-! ## Round trips -/

/-- A record is read back from words if, after any first word, they give the fields that are kept of
it. Where they have no surrogates they can be sent in UTF-8 unless one of them is empty or too long,
and once they have been received they give the same fields. -/
structure IsReadBack (bindings : List Binding) (record : Record) (skip : List Text)
    (words : List Text) : Prop where
  decode_eq : ∀ first, decode bindings (.ofSentence (.opening first words)) =
    .ok (kept record skip bindings)
  isSent_iff : ∀ encoding first, Encoding.charset encoding = .ok .utf8 →
    (∀ word ∈ first :: words, ∀ point ∈ word, point.isSurrogate = false) →
    ((∃ data, Wire.encodeSentence encoding ((first :: words).map .text) = .ok data) ↔
      ∀ word ∈ first :: words,
        word ≠ [] ∧ (word.flatMap Utf8.encodePoint).length ≤ LengthPrefix.maximum)
  received : ∀ encoding first data, Encoding.charset encoding = .ok .utf8 →
    (∀ word ∈ first :: words, ∀ point ∈ word, point.isSurrogate = false) →
    Wire.encodeSentence encoding ((first :: words).map .text) = .ok data →
    ∃ contents, Wire.decodeSentence encoding data = .ok contents ∧
      decode bindings (.ofSentence (.ofTexts contents)) = .ok (kept record skip bindings)

/-- A record whose values are preserved is written as words from which it is read back, also with
further words anywhere between them. -/
theorem isReadBack_of_encode
    (areDistinct : AreDistinct bindings)
    (preserveAll : PreserveAll bindings record skip) :
    ∃ words, encode record skip bindings = .ok words ∧
      ∀ others, IsPadded bindings words others → IsReadBack bindings record skip others := by
  obtain ⟨words, encoded, pairs⟩ := exists_encode areDistinct preserveAll
  refine ⟨words, encoded, fun others isPadded => ?_⟩
  have decode_eq (first : Value) : decode bindings (.ofSentence (.opening first others)) =
      .ok (kept record skip bindings) :=
    decodeOnto_eq areDistinct.names preserveAll fun binding member =>
      get?_of_isPadded areDistinct pairs isPadded member first
  refine ⟨decode_eq, fun encoding first isKnown plain => ?_,
    fun encoding first data isKnown plain sent => ?_⟩
  · rw [Wire.exists_encodeSentence_iff isKnown]
    refine forall₂_congr fun word member => and_congr_right fun _ => ?_
    rw [Charset.encode?_utf8_of_plain (plain word member)]
    simp
  · obtain ⟨layout, rfl, -, encodes⟩ := Wire.encodeSentence_eq_ok_iff.mp sent
    refine ⟨first :: others, ?_, decode_eq (.text first)⟩
    rw [Wire.decodeSentence_bytes_iff isKnown]
    exact Wire.map_decode_of_plain ((Wire.encodes_iff isKnown).mp encodes) plain

/-- Fields of an entry. The number of hits is only read. -/
def entryFields : Mapping where
  fields := [
    { name := literal "id", attributeName := literal ".id" },
    { name := literal "comment", attributeName := literal "comment" },
    { name := literal "is_disabled", attributeName := literal "disabled", parse := .readTruth,
      format := .formatTruth },
    { name := literal "timeout", attributeName := literal "timeout", parse := .readDuration,
      format := .formatDuration },
    { name := literal "hits", attributeName := literal "hits", parse := .readInteger }]

/-- An entry without a number of hits, whose comment looks like further attributes. -/
def entry : Record := [
  (literal "hits", .null),
  (literal "timeout", .duration ⟨90000000, by decide, by decide⟩),
  (literal "is_disabled", .bool false),
  (literal "comment", .text (literal "a==timeout=5 é")),
  (literal "id", .text (literal "*3"))]

/-- The entry is read back, between a tag and attributes of no field, as it has been written. -/
theorem isReadBack_entry :
    AreDistinct entryFields.bindings ∧
    PreserveAll entryFields.bindings entry [literal "id"] ∧
    entryFields.encode entry [literal "id"] =
      .ok [literal "=comment=a==timeout=5 é", literal "=disabled=no", literal "=timeout=1m30s"] ∧
    IsReadBack entryFields.bindings entry [literal "id"]
      [literal ".tag=7", literal "=comment=a==timeout=5 é", literal "=disabled=no",
        literal "=dynamic", literal "=timeout=1m30s", literal "=owner=timeout=5"] := by
  have areDistinct : AreDistinct entryFields.bindings := by decide
  have preserveAll : PreserveAll entryFields.bindings entry [literal "id"] := by decide +kernel
  have encoded : entryFields.encode entry [literal "id"] =
      .ok [literal "=comment=a==timeout=5 é", literal "=disabled=no",
        literal "=timeout=1m30s"] := by
    decide +kernel
  obtain ⟨words, written, isReadBack⟩ := isReadBack_of_encode areDistinct preserveAll
  obtain rfl := Except.ok.inj (encoded.symm.trans written)
  refine ⟨areDistinct, preserveAll, encoded, isReadBack _ ?_⟩
  exact .further (by decide) (.word _ (.word _ (.further (by decide) (.word _
    (.further (by decide) .nil)))))

end Binding
end RouterApi
