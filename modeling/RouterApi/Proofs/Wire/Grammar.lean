import RouterApi.Proofs.Wire.RoundTrip
import RouterApi.Proofs.Wire.WordErrors

/-!
# The grammar of sentences

Bytes are accepted as a sentence exactly if they are laid out as one, which they are in at most one
way. All other bytes either start a sentence that is not complete, or go on after one, or break off
after some words with a byte that can start no prefix. How they are refused tells which of these it
is.
-/

namespace RouterApi
namespace Wire

/-- How a sentence can break off on the wire: any number of words, and then a byte that can start
no prefix. -/
structure Breach where
  frames : List Frame
  byte : UInt8
  reserved : 0xF8 ≤ byte.toNat

namespace Breach

/-- The bytes of the words, and the byte after them. -/
def bytes (breach : Breach) : Bytes :=
  breach.frames.flatMap (fun frame => frame.lead ++ frame.content) ++ [breach.byte]

/-- A breach with one more word in front. -/
def cons
    (frame : Frame)
    (breach : Breach) : Breach :=
  { breach with frames := frame :: breach.frames }

@[simp] theorem bytes_cons
    (frame : Frame)
    (breach : Breach) :
    (breach.cons frame).bytes = frame.lead ++ (frame.content ++ breach.bytes) := by
  simp [bytes, cons]

/-- A breach has no words, or is one with fewer words and another word in front. -/
theorem induction
    {motive : Breach → Prop}
    (last : ∀ byte reserved, motive ⟨[], byte, reserved⟩)
    (cons : ∀ frame breach, motive breach → motive (breach.cons frame))
    (breach : Breach) :
    motive breach := by
  obtain ⟨frames, byte, reserved⟩ := breach
  induction frames with
  | nil => exact last byte reserved
  | cons frame frames inductionHypothesis => exact cons frame _ inductionHypothesis

end Breach

variable {encoding : Value} {charset : Charset} {buffer rest data more : Bytes}
  {words : List Text} {outcome : Except Error Scan}

/-! ## Scanning -/

/-- A scan has only one outcome. -/
theorem Scans.unique
    {other : Except Error Scan}
    (scans : Scans encoding buffer outcome)
    (otherScans : Scans encoding buffer other) :
    outcome = other := by
  rw [← scanSentence_eq_iff] at scans otherScans
  exact scans.symm.trans otherScans

/-- Framing is lost by the reserved byte of a breach. -/
theorem exists_breach_of_scans
    {error : Error}
    (scans : Scans encoding buffer outcome)
    (failed : outcome = .error error)
    (isFraming : error.kind = .framing) :
    ∃ breach : Breach, ∃ rest,
      error = .framing (.reservedByte breach.byte) ∧ buffer = breach.bytes ++ rest := by
  induction scans with
  | reserved read =>
      cases failed
      obtain ⟨reserved, rest, rfl⟩ := LengthPrefix.read?_eq_error_iff.mp read
      exact ⟨⟨[], _, reserved⟩, rest, rfl, rfl⟩
  | starved | ended | cut => cases failed
  | undecodable read whole failing =>
      cases failed
      have kind := Encoding.isApi_of_decode_eq_error failing
      rw [isFraming] at kind
      contradiction
  | @word buffer length after word outcome read whole decoded later inductionHypothesis =>
      cases outcome with
      | ok scan => cases failed
      | error reason =>
          cases failed
          obtain ⟨breach, rest, error_eq, after_eq⟩ := inductionHypothesis rfl
          obtain ⟨frame, -, buffer_eq⟩ := exists_frame_of_read? read whole
          refine ⟨breach.cons frame, rest, error_eq, ?_⟩
          rw [buffer_eq, after_eq, Breach.bytes_cons, List.append_assoc, List.append_assoc]

/-- The breach at the front of a buffer is found, whatever follows. -/
theorem scans_breach
    (isKnown : Encoding.charset encoding = .ok charset)
    (breach : Breach)
    (rest : Bytes) :
    Scans encoding (breach.bytes ++ rest) (.error (.framing (.reservedByte breach.byte))) := by
  induction breach using Breach.induction with
  | last byte reserved =>
      exact .reserved (LengthPrefix.read?_eq_error_iff.mpr ⟨reserved, rest, rfl⟩)
  | cons frame breach inductionHypothesis =>
      have decoded : Encoding.decode encoding frame.content =
          .ok (charset.decode frame.content) := by
        rw [Encoding.decode, isKnown]
      rw [Breach.bytes_cons, List.append_assoc, List.append_assoc]
      exact scans_frame frame decoded inductionHypothesis

/-- In a known character set every layout at the front of a buffer is found. -/
theorem scans_layout
    (isKnown : Encoding.charset encoding = .ok charset)
    (layout : Layout)
    (rest : Bytes) :
    Scans encoding (layout.bytes ++ rest)
      (.ok (some (layout.contents.map charset.decode, rest))) := by
  have decodes : Decodes encoding layout.contents (layout.contents.map charset.decode) :=
    (decodes_iff isKnown).mpr rfl
  exact scans_bytes decodes rest

/-- The start of a word, or of the end of a sentence, can be completed to a sentence. -/
theorem Layout.exists_completion
    {lead part : Bytes}
    {length : Nat}
    (denotes : LengthPrefix.Denotes lead length)
    (fits : part.length ≤ length) :
    ∃ layout : Layout, ∃ more, layout.bytes = lead ++ (part ++ more) ∧
      (part.length < length → more ≠ []) := by
  cases length with
  | zero =>
      obtain rfl := List.length_eq_zero_iff.mp (Nat.le_zero.mp fits)
      refine ⟨⟨[], lead, denotes⟩, [], by simp [Layout.bytes], ?_⟩
      intro short
      contradiction
  | succ length =>
      -- What is missing of the word may be anything, here zeros.
      have size : (part ++ List.replicate (length + 1 - part.length) 0).length = length + 1 := by
        rw [List.length_append, List.length_replicate]
        omega
      let frame : Frame :=
        { lead
          content := part ++ List.replicate (length + 1 - part.length) 0
          denotes := by rwa [size]
          occupied := by
            intro empty
            rw [empty] at size
            cases size }
      refine ⟨⟨[frame], [0], .one (by decide)⟩,
        List.replicate (length + 1 - part.length) 0 ++ [0], ?_, fun _ => by simp⟩
      simp [Layout.bytes, frame]

/-- Bytes that hold no complete sentence and no breach can be completed to a sentence. -/
theorem exists_layout_of_incomplete
    (scans : Scans encoding buffer outcome)
    (incomplete : outcome = .ok none) :
    ∃ layout : Layout, ∃ more, more ≠ [] ∧ layout.bytes = buffer ++ more := by
  induction scans with
  | reserved | ended | undecodable => cases incomplete
  | starved read =>
      obtain ⟨more, length, nonempty, denotes⟩ := LengthPrefix.exists_denotes_of_read?_eq_none read
      have fits : ([] : Bytes).length ≤ length := Nat.zero_le length
      obtain ⟨layout, further, bytes_eq, -⟩ := Layout.exists_completion denotes fits
      refine ⟨layout, more ++ further, List.append_ne_nil_of_left_ne_nil nonempty _, ?_⟩
      rw [bytes_eq, List.nil_append, List.append_assoc]
  | cut read short =>
      obtain ⟨lead, denotes, rfl⟩ := LengthPrefix.denotes_of_read? read
      obtain ⟨layout, more, bytes_eq, nonempty⟩ :=
        Layout.exists_completion denotes (Nat.le_of_lt short)
      refine ⟨layout, more, nonempty short, ?_⟩
      rw [bytes_eq, List.append_assoc]
  | @word buffer length after word outcome read whole decoded later inductionHypothesis =>
      match outcome with
      | .error reason => cases incomplete
      | .ok (some found) => cases incomplete
      | .ok none =>
          obtain ⟨layout, more, nonempty, bytes_eq⟩ := inductionHypothesis rfl
          obtain ⟨frame, -, buffer_eq⟩ := exists_frame_of_read? read whole
          refine ⟨layout.cons frame, more, nonempty, ?_⟩
          rw [Layout.bytes_cons, bytes_eq, buffer_eq, List.append_assoc, List.append_assoc]

/-- The start of a sentence holds neither a complete one nor a breach. -/
theorem scans_of_proper
    (isKnown : Encoding.charset encoding = .ok charset)
    {layout : Layout}
    (proper : more ≠ [])
    (starts : layout.bytes = buffer ++ more) :
    Scans encoding buffer (.ok none) := by
  have whole := scans_layout isKnown layout []
  rw [List.append_nil, starts] at whole
  -- What is found in the start is found in the whole sentence as well, but that leaves no bytes.
  have scans := scans_scanSentence encoding buffer
  match found : scanSentence encoding buffer with
  | .ok none => rwa [found] at scans
  | .error error =>
      rw [found] at scans
      have extended := (scans.append nofun more).unique whole
      cases extended
  | .ok (some (words, rest)) =>
      rw [found] at scans
      have extended := (scans.append nofun more).unique whole
      simp only [extend, Except.map, Option.map_some, Except.ok.injEq, Option.some.injEq,
        Prod.mk.injEq, List.append_eq_nil_iff] at extended
      exact absurd extended.2.2 proper

/-! ## Sentences at the front of bytes -/

/-- The sentence at the front of bytes is determined by them. -/
theorem Layout.eq_of_append_eq
    {layout other : Layout}
    {rest otherRest : Bytes}
    (same : layout.bytes ++ rest = other.bytes ++ otherRest) :
    layout = other ∧ rest = otherRest := by
  have isKnown := Encoding.charset_commonName .utf8
  have scans := scans_layout isKnown layout rest
  rw [same] at scans
  have outcomes := scans.unique (scans_layout isKnown other otherRest)
  have rest_eq : rest = otherRest := by
    simp only [Except.ok.injEq, Option.some.injEq, Prod.mk.injEq] at outcomes
    exact outcomes.2
  rw [rest_eq] at same
  exact ⟨Layout.bytes_injective (List.append_cancel_right same), rest_eq⟩

/-- Bytes that start with a breach do not start with a sentence. -/
theorem Breach.append_ne
    (breach : Breach)
    (layout : Layout)
    (rest otherRest : Bytes) :
    breach.bytes ++ rest ≠ layout.bytes ++ otherRest := by
  intro same
  -- What bytes are laid out as does not depend on a character set, so that any of them will do.
  have isKnown := Encoding.charset_commonName .utf8
  have scans := scans_breach isKnown breach rest
  rw [same] at scans
  have outcomes := scans.unique (scans_layout isKnown layout otherRest)
  contradiction

/-- Sentences at the front of bytes come before the breach after other sentences. -/
theorem Breach.layouts_prefix
    {layouts complete : List Layout}
    {rest more : Bytes}
    (breach : Breach)
    (same : layouts.flatMap Layout.bytes ++ (breach.bytes ++ rest) =
      complete.flatMap Layout.bytes ++ more) :
    complete <+: layouts := by
  induction complete generalizing layouts with
  | nil => exact List.nil_prefix
  | cons first others inductionHypothesis =>
      rw [List.flatMap_cons, List.append_assoc] at same
      cases layouts with
      | nil => exact absurd same (breach.append_ne first rest _)
      | cons layout layouts =>
          rw [List.flatMap_cons, List.append_assoc] at same
          obtain ⟨rfl, later⟩ := Layout.eq_of_append_eq same
          rw [List.prefix_cons_inj]
          exact inductionHypothesis later

/-! ## Exactly one sentence -/

/-- How bytes are read as exactly one sentence: as its words if they are laid out as one. Otherwise
they are refused as the start of a sentence, as a sentence with more after it, or because of the
byte that breaks a sentence off. -/
inductive Reads (charset : Charset) : Bytes → Except Error (List Text) → Prop
  | sentence (layout : Layout) :
      Reads charset layout.bytes (.ok (layout.contents.map charset.decode))
  | truncated {data more : Bytes}
      (layout : Layout)
      (proper : more ≠ [])
      (starts : layout.bytes = data ++ more) :
      Reads charset data (.error (.framing .truncated))
  | trailing {more : Bytes}
      (layout : Layout)
      (proper : more ≠ []) :
      Reads charset (layout.bytes ++ more) (.error (.framing .trailing))
  | reserved
      (breach : Breach)
      (rest : Bytes) :
      Reads charset (breach.bytes ++ rest) (.error (.framing (.reservedByte breach.byte)))

/-- All bytes are a sentence, the start of one, a sentence with more after it, or broken off. -/
theorem reads_decodeSentence
    (isKnown : Encoding.charset encoding = .ok charset)
    (data : Bytes) :
    Reads charset data (decodeSentence encoding data) := by
  have scans := scans_scanSentence encoding data
  unfold decodeSentence
  split
  · rename_i error found
    rw [found] at scans
    obtain ⟨byte, rfl⟩ := scans.exists_reserved isKnown rfl
    obtain ⟨breach, rest, error_eq, rfl⟩ := exists_breach_of_scans scans rfl rfl
    rw [error_eq]
    exact .reserved breach rest
  · rename_i found
    rw [found] at scans
    obtain ⟨layout, more, proper, starts⟩ := exists_layout_of_incomplete scans rfl
    exact .truncated layout proper starts
  · rename_i words found
    rw [found] at scans
    obtain ⟨layout, rfl, decodes⟩ := exists_layout_of_scans scans rfl
    rw [List.append_nil, ← (decodes_iff isKnown).mp decodes]
    exact .sentence layout
  · rename_i words byte rest found
    rw [found] at scans
    obtain ⟨layout, rfl, -⟩ := exists_layout_of_scans scans rfl
    exact .trailing layout (List.cons_ne_nil byte rest)

/-- These four cases exclude each other, and each is read in its own way. -/
theorem Reads.decodeSentence_eq
    {reading : Except Error (List Text)}
    (reads : Reads charset data reading)
    (isKnown : Encoding.charset encoding = .ok charset) :
    decodeSentence encoding data = reading := by
  cases reads with
  | sentence layout => exact (decodeSentence_bytes_iff isKnown layout).mpr rfl
  | truncated layout proper starts =>
      have scans := scans_of_proper isKnown proper starts
      rw [decodeSentence, scanSentence_eq_iff.mpr scans]
  | @trailing more layout proper =>
      have scans := scans_layout isKnown layout more
      obtain ⟨byte, rest, rfl⟩ := List.exists_cons_of_ne_nil proper
      rw [decodeSentence, scanSentence_eq_iff.mpr scans]
  | reserved breach rest =>
      have scans := scans_breach isKnown breach rest
      rw [decodeSentence, scanSentence_eq_iff.mpr scans]

theorem decodeSentence_eq_iff_reads
    {reading : Except Error (List Text)}
    (isKnown : Encoding.charset encoding = .ok charset) :
    decodeSentence encoding data = reading ↔ Reads charset data reading := by
  constructor
  · rintro rfl
    exact reads_decodeSentence isKnown data
  · intro reads
    exact reads.decodeSentence_eq isKnown

/-- In any supported encoding, bytes are accepted exactly if they are laid out as a sentence, which
they are in one way only, and all others are refused as badly framed. A part of a sentence is
refused as truncated, and a sentence with anything after it for what is trailing, so no sentence is
the start of another. -/
theorem decodeSentence_accepts_exactly_layouts
    (isKnown : Encoding.charset encoding = .ok charset)
    (data : Bytes) :
    (∀ words, decodeSentence encoding data = .ok words ↔
      ∃ layout : Layout, layout.bytes = data ∧ layout.contents.map charset.decode = words) ∧
    (∀ layout other : Layout, layout.bytes = data → other.bytes = data → layout = other) ∧
    ((∀ layout : Layout, layout.bytes ≠ data) →
      ∃ fault, decodeSentence encoding data = .error (.framing fault)) ∧
    (∀ layout : Layout, layout.bytes = data → ∀ more, more ≠ [] →
      decodeSentence encoding (data ++ more) = .error (.framing .trailing) ∧
      ∀ start, start ++ more = data →
        decodeSentence encoding start = .error (.framing .truncated)) ∧
    (∀ reading, decodeSentence encoding data = reading ↔ Reads charset data reading) := by
  refine ⟨?accepted, ?unambiguous, ?refused, ?apart, fun _ => decodeSentence_eq_iff_reads isKnown⟩
  case accepted =>
    intro words
    simp only [decodeSentence_eq_ok_iff, decodes_iff isKnown]
  case unambiguous =>
    intro layout other layout_eq other_eq
    exact Layout.bytes_injective (layout_eq.trans other_eq.symm)
  case refused =>
    intro noLayout
    have reads := reads_decodeSentence isKnown data
    generalize decodeSentence encoding data = reading at reads ⊢
    cases reads with
    | sentence layout => exact absurd rfl (noLayout layout)
    | truncated | trailing | reserved => exact ⟨_, rfl⟩
  case apart =>
    rintro layout rfl more proper
    refine ⟨(Reads.trailing layout proper).decodeSentence_eq isKnown, ?_⟩
    intro start starts
    exact (Reads.truncated layout proper starts.symm).decodeSentence_eq isKnown

/-- A word of one byte after a prefix of two bytes, and a terminator of three. -/
def lavish : Bytes :=
  [0x80, 1, 0x61, 0xC0, 0, 0]

/-- These bytes are a sentence of one word. -/
theorem decodeSentence_lavish :
    Encoding.charset (.text Charset.utf8.commonName) = .ok .utf8 ∧
    decodeSentence (.text Charset.utf8.commonName) lavish = .ok [literal "a"] ∧
    decodeSentence (.text Charset.utf8.commonName) (lavish ++ [0]) = .error (.framing .trailing) ∧
    decodeSentence (.text Charset.utf8.commonName) (lavish.take 5) =
      .error (.framing .truncated) := by
  have isKnown := Encoding.charset_commonName .utf8
  obtain ⟨accepted, -, -, apart, -⟩ := decodeSentence_accepts_exactly_layouts isKnown lavish
  have read : decodeSentence (.text Charset.utf8.commonName) lavish = .ok [literal "a"] := by
    decide
  obtain ⟨layout, layout_eq, -⟩ := (accepted _).mp read
  exact ⟨isKnown, read, (apart layout layout_eq [0] (by decide)).1,
    (apart layout layout_eq [0] (by decide)).2 _ (by decide)⟩

end Wire
end RouterApi
