import RouterApi.Proofs.Wire.Layout

/-!
# Round trips of sentences

Text without surrogates comes back as it was sent. With escaped bytes in it, it comes back if and
only if each word is what some bytes are read as, since escapes next to each other may be read as
one character. Bytes, in contrast, always survive: the words that have been read from a sentence are
sent as the same bytes, in the minimal layout.
-/

namespace RouterApi

/-- The name by which an encoding is usually known. -/
def Charset.commonName : Charset → Text
  | .utf8 => literal "utf-8"
  | .ascii => literal "ascii"
  | .latin1 => literal "latin-1"

theorem Encoding.charset_commonName (charset : Charset) :
    Encoding.charset (.text charset.commonName) = .ok charset := by
  cases charset <;> decide

namespace Wire

variable {encoding : Value} {charset : Charset} {data : Bytes} {words : List Text}
  {contents : List Bytes}

theorem decodes_iff (isKnown : Encoding.charset encoding = .ok charset) :
    Decodes encoding contents words ↔ contents.map charset.decode = words := by
  simp only [Decodes, Encoding.decode, isKnown, Except.ok.injEq]
  rw [← List.forall₂_map_left_iff (R := Eq), List.forall₂_eq_eq_eq]

theorem wordBytes_text_eq_ok_iff
    (isKnown : Encoding.charset encoding = .ok charset)
    (word : Text)
    (content : Bytes) :
    wordBytes encoding (.text word) = .ok content ↔ charset.encode? word = some content := by
  simp only [wordBytes, Encoding.encode, isKnown]
  cases charset.encode? word with
  | none => simp
  | some bytes => simp

theorem encodes_iff (isKnown : Encoding.charset encoding = .ok charset) :
    Encodes encoding (words.map .text) contents ↔
      List.Forall₂ (fun word content => charset.encode? word = some content) words contents := by
  rw [Encodes, List.forall₂_map_left_iff]
  simp only [wordBytes_text_eq_ok_iff isKnown]

/-- Words can be sent if and only if each of them has a code point and can be encoded, in no more
bytes than a prefix can denote. -/
theorem exists_encodeSentence_iff
    (isKnown : Encoding.charset encoding = .ok charset) :
    (∃ data, encodeSentence encoding (words.map .text) = .ok data) ↔
      ∀ word ∈ words, word ≠ [] ∧ ∃ content, charset.encode? word = some content ∧
        content.length ≤ LengthPrefix.maximum := by
  induction words with
  | nil => exact ⟨fun _ => List.forall_mem_nil _, fun _ => ⟨[0], rfl⟩⟩
  | cons word others inductionHypothesis =>
      rw [List.forall_mem_cons, ← inductionHypothesis]
      have occupied_iff : isEmpty (.text word) = false ↔ word ≠ [] := List.isEmpty_eq_false_iff
      constructor
      · rintro ⟨data, sent⟩
        obtain ⟨occupied, content, lead, later, encoded, prefixed, rest, -⟩ :=
          encodeSentence_cons_eq_ok_iff.mp sent
        exact ⟨⟨occupied_iff.mp occupied, content,
          (wordBytes_text_eq_ok_iff isKnown _ _).mp encoded,
          (LengthPrefix.isMinimal_of_encode prefixed).denotes.le_maximum⟩, later, rest⟩
      · rintro ⟨⟨occupied, content, encoded, fits⟩, later, rest⟩
        obtain ⟨lead, prefixed⟩ := LengthPrefix.exists_encode fits
        exact ⟨_, encodeSentence_cons_eq_ok_iff.mpr ⟨occupied_iff.mpr occupied, content, lead,
          later, (wordBytes_text_eq_ok_iff isKnown _ _).mpr encoded, prefixed, rest, rfl⟩⟩

/-- A layout is read as the texts of its words. -/
theorem decodeSentence_bytes_iff
    (isKnown : Encoding.charset encoding = .ok charset)
    (layout : Layout) :
    decodeSentence encoding layout.bytes = .ok words ↔
      layout.contents.map charset.decode = words := by
  rw [decodeSentence_eq_ok_iff, ← decodes_iff isKnown]
  constructor
  · rintro ⟨other, same, decodes⟩
    rwa [Layout.bytes_injective same] at decodes
  · intro decodes
    exact ⟨layout, rfl, decodes⟩

/-! ## Text -/

/-- Words without surrogates are read as they were written. -/
theorem map_decode_of_plain
    (written :
      List.Forall₂ (fun word content => charset.encode? word = some content) words contents)
    (plain : ∀ word ∈ words, ∀ point ∈ word, point.isSurrogate = false) :
    contents.map charset.decode = words := by
  induction written with
  | nil => rfl
  | cons first others inductionHypothesis =>
      obtain ⟨plainFirst, plainOthers⟩ := List.forall_mem_cons.mp plain
      rw [List.map_cons, Charset.decode_of_encode? plainFirst first,
        inductionHypothesis plainOthers]

/-- In UTF-8 all words without surrogates can be sent that are neither empty nor too long. -/
theorem exists_encodeSentence_iff_of_plain
    (isKnown : Encoding.charset encoding = .ok .utf8)
    (plain : ∀ word ∈ words, ∀ point ∈ word, point.isSurrogate = false) :
    (∃ data, encodeSentence encoding (words.map .text) = .ok data) ↔
      ∀ word ∈ words,
        word ≠ [] ∧ (word.flatMap Utf8.encodePoint).length ≤ LengthPrefix.maximum := by
  rw [exists_encodeSentence_iff isKnown]
  refine forall₂_congr fun word member => and_congr_right fun _ => ?_
  rw [Charset.encode?_utf8_of_plain (plain word member)]
  simp only [Option.some.injEq, exists_eq_left']

/-- Words without surrogates come back as they were sent. -/
theorem decodeSentence_of_plain
    (isKnown : Encoding.charset encoding = .ok charset)
    (plain : ∀ word ∈ words, ∀ point ∈ word, point.isSurrogate = false)
    (sent : encodeSentence encoding (words.map .text) = .ok data) :
    decodeSentence encoding data = .ok words := by
  obtain ⟨layout, rfl, -, encodes⟩ := encodeSentence_eq_ok_iff.mp sent
  rw [decodeSentence_bytes_iff isKnown]
  exact map_decode_of_plain ((encodes_iff isKnown).mp encodes) plain

/-- Words are read as they were written if and only if each of them is what some bytes are read as.
-/
theorem map_decode_eq_iff
    (written :
      List.Forall₂ (fun word content => charset.encode? word = some content) words contents) :
    contents.map charset.decode = words ↔
      ∀ word ∈ words, ∃ original, word = charset.decode original := by
  induction written with
  | nil => simp
  | cons first others inductionHypothesis =>
      rw [List.map_cons, List.cons.injEq, List.forall_mem_cons, inductionHypothesis,
        Charset.decode_eq_iff_of_encode? first]

/-- Words without surrogates come back as they were sent. Any words come back if and only if each of
them is what some bytes are read as. -/
theorem decodeSentence_of_encodeSentence
    (isKnown : Encoding.charset encoding = .ok charset)
    (sent : encodeSentence encoding (words.map .text) = .ok data) :
    ((∀ word ∈ words, ∀ point ∈ word, point.isSurrogate = false) →
      decodeSentence encoding data = .ok words) ∧
    (decodeSentence encoding data = .ok words ↔
      ∀ word ∈ words, ∃ original, word = charset.decode original) := by
  obtain ⟨layout, rfl, -, encodes⟩ := encodeSentence_eq_ok_iff.mp sent
  have written := (encodes_iff isKnown).mp encodes
  rw [decodeSentence_bytes_iff isKnown]
  exact ⟨map_decode_of_plain written, map_decode_eq_iff written⟩

/-- A word with a null character and an equal sign, and the escapes of two bytes that are one
character next to each other. -/
def fusing : List Text :=
  [literal "=\x00=", [⟨0xDCC3, by decide⟩, ⟨0xDCA9, by decide⟩]]

/-- The escapes come back as the character, not as they were sent. -/
theorem decodeSentence_fusing :
    Encoding.charset (.text Charset.utf8.commonName) = .ok .utf8 ∧
    encodeSentence (.text Charset.utf8.commonName) (fusing.map .text) =
      .ok [3, 0x3D, 0, 0x3D, 2, 0xC3, 0xA9, 0] ∧
    ((∀ word ∈ fusing, ∀ point ∈ word, point.isSurrogate = false) →
      decodeSentence (.text Charset.utf8.commonName) [3, 0x3D, 0, 0x3D, 2, 0xC3, 0xA9, 0] =
        .ok fusing) ∧
    (decodeSentence (.text Charset.utf8.commonName) [3, 0x3D, 0, 0x3D, 2, 0xC3, 0xA9, 0] =
        .ok fusing ↔
      ∀ word ∈ fusing, ∃ original, word = Charset.utf8.decode original) := by
  have isKnown := Encoding.charset_commonName .utf8
  have sent : encodeSentence (.text Charset.utf8.commonName) (fusing.map .text) =
      .ok [3, 0x3D, 0, 0x3D, 2, 0xC3, 0xA9, 0] := by decide
  exact ⟨isKnown, sent, decodeSentence_of_encodeSentence isKnown sent⟩

/-! ## Bytes -/

/-- Bytes that are read from a sentence are sent again as they were received. -/
theorem encodes_map_decode
    (isKnown : Encoding.charset encoding = .ok charset)
    (contents : List Bytes) :
    Encodes encoding ((contents.map charset.decode).map .text) contents := by
  rw [encodes_iff isKnown, List.forall₂_map_left_iff, List.forall₂_same]
  intro content _
  exact charset.encode?_decode content

/-- The words of every sentence that is accepted are sent again as the same bytes, in the minimal
layout. So what is sent is what was received if and only if that was minimal. -/
theorem encodeSentence_of_decodeSentence
    (isKnown : Encoding.charset encoding = .ok charset)
    (accepted : decodeSentence encoding data = .ok words) :
    ∃ received sent : Layout,
      received.bytes = data ∧ (∀ other : Layout, other.bytes = data → other = received) ∧
      words = received.contents.map charset.decode ∧
      encodeSentence encoding (words.map .text) = .ok sent.bytes ∧
      sent.contents = received.contents ∧ sent.IsMinimal ∧
      (sent.bytes = data ↔ received.IsMinimal) := by
  obtain ⟨received, rfl, decodes⟩ := decodeSentence_eq_ok_iff.mp accepted
  have words_eq := (decodes_iff isKnown).mp decodes
  obtain ⟨sent, minimal, contents_eq⟩ := received.exists_minimal
  refine ⟨received, sent, rfl, fun _ => Layout.bytes_injective, words_eq.symm, ?_, contents_eq,
    minimal, ?_, ?_⟩
  · rw [encodeSentence_eq_ok_iff]
    refine ⟨sent, rfl, minimal, ?_⟩
    rw [← words_eq, contents_eq]
    exact encodes_map_decode isKnown received.contents
  · intro same
    rwa [← Layout.bytes_injective same]
  · intro alreadyMinimal
    rw [minimal.unique alreadyMinimal contents_eq]

/-- A truncated character after a prefix of two bytes, a byte that is no text, and a terminator of
three bytes. -/
def garbled : Bytes :=
  [0x80, 2, 0xE2, 0x82, 1, 0xFF, 0xC0, 0, 0]

/-- The words of these bytes, which are sent again in a shorter way. -/
theorem encodeSentence_garbled :
    Encoding.charset (.text Charset.utf8.commonName) = .ok .utf8 ∧
    decodeSentence (.text Charset.utf8.commonName) garbled =
      .ok [[CodePoint.escapeOf 0xE2, CodePoint.escapeOf 0x82], [CodePoint.escapeOf 0xFF]] ∧
    ∃ received sent : Layout,
      received.bytes = garbled ∧ (∀ other : Layout, other.bytes = garbled → other = received) ∧
      [[CodePoint.escapeOf 0xE2, CodePoint.escapeOf 0x82], [CodePoint.escapeOf 0xFF]] =
        received.contents.map Charset.utf8.decode ∧
      encodeSentence (.text Charset.utf8.commonName)
        [.text [CodePoint.escapeOf 0xE2, CodePoint.escapeOf 0x82],
          .text [CodePoint.escapeOf 0xFF]] = .ok sent.bytes ∧
      sent.contents = received.contents ∧ sent.IsMinimal ∧
      (sent.bytes = garbled ↔ received.IsMinimal) := by
  have isKnown := Encoding.charset_commonName .utf8
  have accepted : decodeSentence (.text Charset.utf8.commonName) garbled =
      .ok [[CodePoint.escapeOf 0xE2, CodePoint.escapeOf 0x82], [CodePoint.escapeOf 0xFF]] := by
    decide
  exact ⟨isKnown, accepted, encodeSentence_of_decodeSentence isKnown accepted⟩

end Wire
end RouterApi
