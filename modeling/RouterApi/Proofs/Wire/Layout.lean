import Mathlib.Data.List.Forall2
import RouterApi.Wire.Encoder
import RouterApi.Proofs.Charset
import RouterApi.Proofs.Wire.Scanning

/-!
# The layout of a sentence

On the wire a sentence is a sequence of words, each preceded by a prefix that denotes its length,
and a prefix that denotes the length zero. Scanning finds exactly the layouts whose words can be
decoded, and encoding produces exactly the minimal layout of the words.
-/

namespace RouterApi
namespace Wire

/-- A word on the wire: its bytes, of which there is at least one, and a prefix that denotes how
many there are. -/
@[ext]
structure Frame where
  lead : Bytes
  content : Bytes
  denotes : LengthPrefix.Denotes lead content.length
  occupied : content ≠ []

/-- A sentence on the wire: its words, and a prefix that denotes the length zero. -/
@[ext]
structure Layout where
  frames : List Frame
  terminator : Bytes
  ends : LengthPrefix.Denotes terminator 0

namespace Layout

/-- The bytes of a sentence. -/
def bytes (layout : Layout) : Bytes :=
  layout.frames.flatMap (fun frame => frame.lead ++ frame.content) ++ layout.terminator

/-- The bytes of each word. -/
def contents (layout : Layout) : List Bytes :=
  layout.frames.map Frame.content

/-- A layout is minimal if all its prefixes are. -/
structure IsMinimal (layout : Layout) : Prop where
  leads : ∀ frame ∈ layout.frames, LengthPrefix.IsMinimal frame.lead frame.content.length
  terminator : layout.terminator = [0]

/-- A sentence with one more word in front. -/
def cons
    (frame : Frame)
    (layout : Layout) : Layout :=
  { layout with frames := frame :: layout.frames }

@[simp] theorem bytes_cons
    (frame : Frame)
    (layout : Layout) :
    (layout.cons frame).bytes = frame.lead ++ (frame.content ++ layout.bytes) := by
  simp [bytes, cons]

@[simp] theorem contents_cons
    (frame : Frame)
    (layout : Layout) :
    (layout.cons frame).contents = frame.content :: layout.contents := rfl

/-- A sentence has no words, or is one with fewer words and another word in front. -/
theorem induction
    {motive : Layout → Prop}
    (last : ∀ terminator ends, motive ⟨[], terminator, ends⟩)
    (cons : ∀ frame layout, motive layout → motive (layout.cons frame))
    (layout : Layout) :
    motive layout := by
  obtain ⟨frames, terminator, ends⟩ := layout
  induction frames with
  | nil => exact last terminator ends
  | cons frame frames inductionHypothesis => exact cons frame _ inductionHypothesis

end Layout

theorem Frame.exists_length_eq (frame : Frame) : ∃ length, frame.content.length = length + 1 :=
  Nat.exists_eq_succ_of_ne_zero (mt List.length_eq_zero_iff.mp frame.occupied)

variable {encoding : Value} {buffer rest data : Bytes} {contents : List Bytes} {words : List Text}

/-! ## Scanning -/

/-- Bytes decode as texts if each of them does. -/
abbrev Decodes
    (encoding : Value) : List Bytes → List Text → Prop :=
  List.Forall₂ fun content word => Encoding.decode encoding content = .ok word

/-- A word in front of a buffer is scanned before what follows it. -/
theorem scans_frame
    (frame : Frame)
    {word : Text}
    {outcome : Except Error Scan}
    (decoded : Encoding.decode encoding frame.content = .ok word)
    (later : Scans encoding buffer outcome) :
    Scans encoding (frame.lead ++ (frame.content ++ buffer)) (prepend word outcome) := by
  obtain ⟨length, length_eq⟩ := frame.exists_length_eq
  have read := LengthPrefix.read?_of_denotes frame.denotes (frame.content ++ buffer)
  rw [length_eq] at read
  refine .word read ?_ ?_ ?_
  · rw [List.length_append]
    omega
  · rwa [← length_eq, List.take_left]
  · rwa [← length_eq, List.drop_left]

/-- A layout is scanned as its words, whatever follows. -/
theorem scans_bytes
    {layout : Layout}
    (decodes : Decodes encoding layout.contents words)
    (rest : Bytes) :
    Scans encoding (layout.bytes ++ rest) (.ok (some (words, rest))) := by
  induction layout using Layout.induction generalizing words with
  | last terminator ends =>
      cases decodes
      exact .ended (LengthPrefix.read?_of_denotes ends rest)
  | cons frame layout inductionHypothesis =>
      cases decodes with
      | cons decoded others =>
          rw [Layout.bytes_cons, List.append_assoc, List.append_assoc]
          exact scans_frame frame decoded (inductionHypothesis others)

/-- A word that is there in full is a frame at the front of the buffer. -/
theorem exists_frame_of_read?
    {length : Nat}
    (read : LengthPrefix.read? buffer = .ok (some (length + 1, rest)))
    (whole : length + 1 ≤ rest.length) :
    ∃ frame : Frame, frame.content = rest.take (length + 1) ∧
      buffer = frame.lead ++ (frame.content ++ rest.drop (length + 1)) := by
  obtain ⟨lead, denotes, buffer_eq⟩ := LengthPrefix.denotes_of_read? read
  have size : (rest.take (length + 1)).length = length + 1 := List.length_take_of_le whole
  let frame : Frame :=
    { lead
      content := rest.take (length + 1)
      denotes := by rwa [size]
      occupied := by
        intro empty
        rw [empty] at size
        cases size }
  refine ⟨frame, rfl, ?_⟩
  rw [buffer_eq, List.take_append_drop]

/-- What is scanned is a layout. -/
theorem exists_layout_of_scans
    {outcome : Except Error Scan}
    (scans : Scans encoding buffer outcome)
    (found : outcome = .ok (some (words, rest))) :
    ∃ layout : Layout, buffer = layout.bytes ++ rest ∧ Decodes encoding layout.contents words := by
  induction scans generalizing words with
  | reserved | starved | cut | undecodable => cases found
  | ended read =>
      cases found
      obtain ⟨terminator, ends, buffer_eq⟩ := LengthPrefix.denotes_of_read? read
      exact ⟨⟨[], terminator, ends⟩, buffer_eq, .nil⟩
  | @word buffer length after word outcome read whole decoded later inductionHypothesis =>
      match outcome with
      | .error reason => cases found
      | .ok none => cases found
      | .ok (some (others, left)) =>
          cases found
          obtain ⟨layout, after_eq, decodes⟩ := inductionHypothesis rfl
          obtain ⟨frame, content_eq, buffer_eq⟩ := exists_frame_of_read? read whole
          refine ⟨layout.cons frame, ?_, .cons (content_eq ▸ decoded) decodes⟩
          rw [Layout.bytes_cons, List.append_assoc, List.append_assoc, ← after_eq, buffer_eq]

theorem decodeSentence_eq_ok_iff_scans :
    decodeSentence encoding data = .ok words ↔ Scans encoding data (.ok (some (words, []))) := by
  rw [← scanSentence_eq_iff, decodeSentence]
  split
  · simp_all
  · simp_all
  · simp_all
  · simp_all

/-- Exactly the layouts whose words can be decoded are accepted. -/
theorem decodeSentence_eq_ok_iff :
    decodeSentence encoding data = .ok words ↔
      ∃ layout : Layout, layout.bytes = data ∧ Decodes encoding layout.contents words := by
  rw [decodeSentence_eq_ok_iff_scans]
  constructor
  · intro scans
    obtain ⟨layout, data_eq, decodes⟩ := exists_layout_of_scans scans rfl
    exact ⟨layout, by rw [data_eq, List.append_nil], decodes⟩
  · rintro ⟨layout, rfl, decodes⟩
    have scans := scans_bytes decodes []
    rwa [List.append_nil] at scans

/-- A word of some bytes is no end of a sentence. -/
theorem Frame.bytes_ne_terminator
    (frame : Frame)
    {terminator : Bytes}
    (ends : LengthPrefix.Denotes terminator 0)
    (later : Bytes) :
    frame.lead ++ (frame.content ++ later) ≠ terminator := by
  intro same
  rw [← List.append_nil terminator] at same
  have length_eq := (frame.denotes.eq_of_append_eq ends same).2.1
  exact frame.occupied (List.length_eq_zero_iff.mp length_eq)

/-- Bytes have at most one layout. -/
theorem Layout.bytes_injective
    {layout other : Layout}
    (same : layout.bytes = other.bytes) :
    layout = other := by
  induction layout using Layout.induction generalizing other with
  | last terminator ends =>
      induction other using Layout.induction with
      | last => exact Layout.ext rfl same
      | cons frame later =>
          rw [bytes_cons] at same
          exact absurd same.symm (frame.bytes_ne_terminator ends later.bytes)
  | cons frame layout inductionHypothesis =>
      induction other using Layout.induction with
      | last terminator ends =>
          rw [bytes_cons] at same
          exact absurd same (frame.bytes_ne_terminator ends layout.bytes)
      | cons otherFrame later =>
          rw [bytes_cons, bytes_cons] at same
          obtain ⟨lead_eq, length_eq, same⟩ := frame.denotes.eq_of_append_eq otherFrame.denotes same
          obtain ⟨content_eq, same⟩ := List.append_inj same length_eq
          rw [Frame.ext lead_eq content_eq, inductionHypothesis same]

/-! ## Encoding -/

/-- Words encode as bytes if each of them does. -/
abbrev Encodes
    (encoding : Value) : List Word → List Bytes → Prop :=
  List.Forall₂ fun word content => wordBytes encoding word = .ok content

/-- The empty words are those that take no bytes. -/
theorem isEmpty_iff_of_wordBytes
    {word : Word}
    {content : Bytes}
    (written : wordBytes encoding word = .ok content) :
    isEmpty word = true ↔ content = [] := by
  cases word with
  | text own =>
      simp only [wordBytes, Encoding.encode] at written
      split at written
      · cases written
      · split at written
        · rename_i found
          cases written
          rw [isEmpty, List.isEmpty_iff]
          exact Charset.eq_nil_iff_of_encode? found
        · cases written
  | bytes own =>
      cases written
      rw [isEmpty, List.isEmpty_iff]
  | null | bool | int | float | duration | time | version | pair => cases written

/-- A sentence is encoded word by word. -/
theorem encodeSentence_cons_eq_ok_iff
    {word : Word}
    {words : List Word} :
    encodeSentence encoding (word :: words) = .ok data ↔
      isEmpty word = false ∧ ∃ content lead later, wordBytes encoding word = .ok content ∧
        LengthPrefix.encode content.length = .ok lead ∧
        encodeSentence encoding words = .ok later ∧ data = lead ++ (content ++ later) := by
  simp only [encodeSentence, encodeWords, encodeWord]
  cases isEmpty word with
  | true => simp
  | false =>
      cases wordBytes encoding word with
      | error error => simp
      | ok content =>
          cases written : LengthPrefix.encode content.length with
          | error fault => simp [written]
          | ok lead =>
              cases encodeWords encoding words with
              | error error => simp [written]
              | ok later => simp [written, eq_comm]

/-- Words are encoded as their minimal layout, if each of them can be encoded and has at least one
and not too many bytes. -/
theorem encodeSentence_eq_ok_iff
    {words : List Word} :
    encodeSentence encoding words = .ok data ↔
      ∃ layout : Layout, layout.bytes = data ∧ layout.IsMinimal ∧
        Encodes encoding words layout.contents := by
  induction words generalizing data with
  | nil =>
      constructor
      · intro written
        cases written
        exact ⟨⟨[], [0], .one (by decide)⟩, rfl, ⟨by simp, rfl⟩, .nil⟩
      · rintro ⟨⟨frames, terminator, ends⟩, rfl, minimal, encodes⟩
        cases frames with
        | nil =>
          cases minimal.terminator
          rfl
        | cons => cases encodes
  | cons word words inductionHypothesis =>
      rw [encodeSentence_cons_eq_ok_iff]
      constructor
      · rintro ⟨occupied, content, lead, later, written, lead_eq, later_eq, rfl⟩
        obtain ⟨layout, rfl, minimal, encodes⟩ := inductionHypothesis.mp later_eq
        have minimalLead := LengthPrefix.isMinimal_of_encode lead_eq
        have occupied : content ≠ [] := by
          intro empty
          rw [(isEmpty_iff_of_wordBytes written).mpr empty] at occupied
          cases occupied
        refine ⟨layout.cons ⟨lead, content, minimalLead.denotes, occupied⟩, Layout.bytes_cons _ _,
          ⟨List.forall_mem_cons.mpr ⟨minimalLead, minimal.leads⟩, minimal.terminator⟩,
          .cons written encodes⟩
      · rintro ⟨⟨frames, terminator, ends⟩, rfl, minimal, encodes⟩
        cases frames with
        | nil => cases encodes
        | cons frame frames =>
            obtain ⟨minimalLead, minimalLater⟩ := List.forall_mem_cons.mp minimal.leads
            cases encodes with
            | cons written others =>
                have occupied : isEmpty word = false := by
                  rw [Bool.eq_false_iff, ne_eq, isEmpty_iff_of_wordBytes written]
                  exact frame.occupied
                exact ⟨occupied, frame.content, frame.lead, _, written,
                  LengthPrefix.isMinimal_iff_encode.mp minimalLead,
                  inductionHypothesis.mpr ⟨⟨frames, terminator, ends⟩, rfl,
                    ⟨minimalLater, minimal.terminator⟩, others⟩,
                  Layout.bytes_cons frame ⟨frames, terminator, ends⟩⟩

/-- The words of a layout have a minimal layout. -/
theorem Layout.exists_minimal (layout : Layout) :
    ∃ canonical : Layout, canonical.IsMinimal ∧ canonical.contents = layout.contents := by
  induction layout using Layout.induction with
  | last => exact ⟨⟨[], [0], .one (by decide)⟩, ⟨by simp, rfl⟩, rfl⟩
  | cons frame layout inductionHypothesis =>
      obtain ⟨later, minimal, contents_eq⟩ := inductionHypothesis
      obtain ⟨lead, written⟩ := LengthPrefix.exists_encode frame.denotes.le_maximum
      have minimalLead := LengthPrefix.isMinimal_of_encode written
      refine ⟨later.cons ⟨lead, frame.content, minimalLead.denotes, frame.occupied⟩,
        ⟨List.forall_mem_cons.mpr ⟨minimalLead, minimal.leads⟩, minimal.terminator⟩, ?_⟩
      rw [contents_cons, contents_cons, contents_eq]

/-- There is only one minimal layout of words. -/
theorem Layout.IsMinimal.unique
    {layout other : Layout}
    (minimal : layout.IsMinimal)
    (otherMinimal : other.IsMinimal)
    (same : layout.contents = other.contents) :
    layout = other := by
  induction layout using Layout.induction generalizing other with
  | last terminator ends =>
      obtain ⟨frames, otherTerminator, otherEnds⟩ := other
      have frames_eq : frames = [] := List.map_eq_nil_iff.mp same.symm
      exact Layout.ext frames_eq.symm (minimal.terminator.trans otherMinimal.terminator.symm)
  | cons frame layout inductionHypothesis =>
      obtain ⟨frames, otherTerminator, otherEnds⟩ := other
      cases frames with
      | nil => cases same
      | cons otherFrame frames =>
          obtain ⟨minimalLead, minimalLater⟩ := List.forall_mem_cons.mp minimal.leads
          obtain ⟨otherMinimalLead, otherMinimalLater⟩ := List.forall_mem_cons.mp otherMinimal.leads
          obtain ⟨content_eq, later_eq⟩ := List.cons.inj same
          have lead_eq : frame.lead = otherFrame.lead :=
            minimalLead.unique (content_eq ▸ otherMinimalLead)
          have later : layout = ⟨frames, otherTerminator, otherEnds⟩ :=
            inductionHypothesis ⟨minimalLater, minimal.terminator⟩
              ⟨otherMinimalLater, otherMinimal.terminator⟩ later_eq
          rw [Frame.ext lead_eq content_eq, later]
          rfl

end Wire
end RouterApi
