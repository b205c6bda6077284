import RouterApi.Proofs.Wire.Reading

/-!
# Streams in chunks

A stream without failures gives its bytes in chunks of any size, up to an empty chunk, which is its
end. What is read from it depends on the bytes alone, and nothing is received while the decoder
still has a complete sentence.
-/

namespace RouterApi

/-- The bytes of a chunk. -/
def Chunk.bytes : Chunk → Bytes
  | data bytes => bytes
  | failure _ => []

/-- Whether a chunk can be received without a failure. -/
def Chunk.IsSmooth : Chunk → Prop
  | data _ => True
  | failure _ => False

/-- The chunks that arrive in answer to a write. -/
def Answer.arriving : Answer → List Chunk
  | chunks arriving => arriving
  | failure _ => []

/-- Whether a write succeeds, and its answer can be received without a failure. -/
def Answer.IsSmooth : Answer → Prop
  | chunks arriving => ∀ chunk ∈ arriving, chunk.IsSmooth
  | failure _ => False

namespace Stream

/-- The bytes that can be read from chunks, up to the end of the stream. -/
def readable : List Chunk → Bytes
  | .data (byte :: bytes) :: later => byte :: bytes ++ readable later
  | _ => []

/-- The bytes that have arrived and can be read. -/
def bytes (stream : Stream) : Bytes :=
  readable stream.unread

/-- The bytes that can be read after those, once so many writes have been answered. Nothing follows
the end of the stream. -/
def answered
    (count : Nat)
    (stream : Stream) : Bytes :=
  if .data [] ∈ stream.unread then []
  else readable ((stream.script.take count).flatMap Answer.arriving)

/-- A stream is smooth if neither reads nor writes fail. -/
structure IsSmooth (stream : Stream) : Prop where
  unread : ∀ chunk ∈ stream.unread, chunk.IsSmooth
  script : ∀ answer ∈ stream.script, answer.IsSmooth

variable {stream after : Stream} {chunks : List Chunk}

theorem readable_append
    (smooth : ∀ chunk ∈ chunks, chunk.IsSmooth)
    (later : List Chunk) :
    readable (chunks ++ later) =
      readable chunks ++ if .data [] ∈ chunks then [] else readable later := by
  induction chunks with
  | nil => simp [readable]
  | cons chunk rest inductionHypothesis =>
      obtain ⟨first, others⟩ := List.forall_mem_cons.mp smooth
      cases chunk with
      | failure reason => cases first
      | data bytes =>
          cases bytes with
          | nil => simp [readable]
          | cons byte bytes => simp [readable, inductionHypothesis others]

/-! ## Pieces -/

theorem flatten_piecesFrom
    (fuel : Nat)
    (bytes : Bytes) :
    (piecesFrom fuel bytes).flatten = bytes := by
  induction fuel generalizing bytes with
  | zero => simp [piecesFrom]
  | succ fuel inductionHypothesis =>
      unfold piecesFrom
      have split_eq := List.take_append_drop receiveSize bytes
      rw [List.splitAt_eq]
      split
      · rename_i piece cut
        simp only [Prod.mk.injEq] at cut
        rw [cut.1, cut.2, List.append_nil] at split_eq
        simp [split_eq]
      · rename_i piece rest _ cut
        simp only [Prod.mk.injEq] at cut
        rw [List.flatten_cons, inductionHypothesis, ← cut.1, ← cut.2, split_eq]

/-- Bytes are cut into pieces that are not empty. -/
theorem ne_nil_of_mem_piecesFrom
    {fuel : Nat}
    {bytes piece : Bytes}
    (nonempty : bytes ≠ [])
    (member : piece ∈ piecesFrom fuel bytes) :
    piece ≠ [] := by
  induction fuel generalizing bytes with
  | zero =>
      rw [piecesFrom, List.mem_singleton] at member
      exact member ▸ nonempty
  | succ fuel inductionHypothesis =>
      have first : bytes.take receiveSize ≠ [] := by
        cases bytes with
        | nil => exact absurd rfl nonempty
        | cons byte rest => simp [receiveSize]
      unfold piecesFrom at member
      rw [List.splitAt_eq] at member
      split at member
      · rename_i cut
        simp only [Prod.mk.injEq] at cut
        rw [List.mem_singleton, ← cut.1] at member
        exact member ▸ first
      · rename_i rest notNil cut
        simp only [Prod.mk.injEq] at cut
        rcases List.mem_cons.mp member with same | later
        · rw [same, ← cut.1]
          exact first
        · refine inductionHypothesis ?_ later
          rintro rfl
          exact notNil rfl

theorem isSmooth_of_mem_pieces
    {chunk piece : Chunk}
    (smooth : chunk.IsSmooth)
    (member : piece ∈ pieces chunk) :
    piece.IsSmooth := by
  cases chunk with
  | failure reason => cases smooth
  | data bytes =>
      obtain ⟨part, -, rfl⟩ := List.mem_map.mp member
      trivial

theorem readable_map_data
    {parts : List Bytes}
    (nonempty : ∀ part ∈ parts, part ≠ []) :
    readable (parts.map .data) = parts.flatten := by
  induction parts with
  | nil => rfl
  | cons part rest inductionHypothesis =>
      obtain ⟨first, others⟩ := List.forall_mem_cons.mp nonempty
      cases part with
      | nil => exact absurd rfl first
      | cons byte bytes => simp [readable, inductionHypothesis others]

/-- Only the end of the stream has the end of the stream among its pieces. -/
theorem mem_pieces_iff (chunk : Chunk) : .data [] ∈ pieces chunk ↔ chunk = .data [] := by
  constructor
  · intro member
    cases chunk with
    | failure reason => simp [pieces] at member
    | data bytes =>
        obtain ⟨part, partMember, same⟩ := List.mem_map.mp member
        cases same
        cases bytes with
        | nil => rfl
        | cons byte bytes =>
            exact absurd rfl (ne_nil_of_mem_piecesFrom (List.cons_ne_nil byte bytes) partMember)
  · rintro rfl
    simp [pieces, piecesFrom]

theorem readable_pieces (chunk : Chunk) : readable (pieces chunk) = readable [chunk] := by
  cases chunk with
  | failure reason => rfl
  | data bytes =>
      cases bytes with
      | nil => simp [pieces, piecesFrom]
      | cons byte bytes =>
          rw [pieces, readable_map_data
            (fun _ member => ne_nil_of_mem_piecesFrom (List.cons_ne_nil byte bytes) member),
            flatten_piecesFrom]
          simp [readable]

/-- Cutting chunks into pieces leaves the bytes as they are. -/
theorem readable_flatMap_pieces (smooth : ∀ chunk ∈ chunks, chunk.IsSmooth) :
    readable (chunks.flatMap pieces) = readable chunks := by
  induction chunks with
  | nil => rfl
  | cons chunk rest inductionHypothesis =>
      obtain ⟨first, others⟩ := List.forall_mem_cons.mp smooth
      have whole := readable_append (fun _ member => List.mem_singleton.mp member ▸ first) rest
      rw [List.singleton_append] at whole
      rw [List.flatMap_cons, readable_append (fun _ member => isSmooth_of_mem_pieces first member),
        inductionHypothesis others, readable_pieces, whole]
      simp only [mem_pieces_iff, List.mem_singleton, eq_comm]

theorem mem_flatMap_pieces_iff : .data [] ∈ chunks.flatMap pieces ↔ .data [] ∈ chunks := by
  simp [List.mem_flatMap, mem_pieces_iff]

/-- A write on a smooth stream succeeds, and its answer arrives after what has arrived before. -/
theorem IsSmooth.send
    (smooth : stream.IsSmooth)
    (data : Bytes) :
    ∃ after, stream.send data = (.ok (), after) ∧ after.IsSmooth ∧
      after.bytes = stream.bytes ++ stream.answered 1 ∧
      ∀ count, stream.answered (count + 1) = stream.answered 1 ++ after.answered count := by
  unfold Stream.send
  cases script : stream.script with
  | nil =>
      refine ⟨_, rfl, ⟨smooth.unread, List.forall_mem_nil _⟩, ?_, ?_⟩
      · simp [Stream.bytes, answered, script, readable]
      · simp [answered, script, readable]
  | cons answer rest =>
      have smoothScript := smooth.script
      rw [script] at smoothScript
      obtain ⟨first, others⟩ := List.forall_mem_cons.mp smoothScript
      cases answer with
      | failure reason => cases first
      | chunks arriving =>
          refine ⟨_, rfl, ⟨?_, others⟩, ?_, fun count => ?_⟩
          · intro piece member
            rcases List.mem_append.mp member with earlier | new
            · exact smooth.unread piece earlier
            · obtain ⟨chunk, chunkMember, pieceMember⟩ := List.mem_flatMap.mp new
              exact isSmooth_of_mem_pieces (first chunk chunkMember) pieceMember
          · simp [Stream.bytes, arrive, answered, script, Answer.arriving,
              readable_append smooth.unread, readable_flatMap_pieces first]
          · simp only [answered, script, arrive, List.take_succ_cons, List.take_zero,
              List.flatMap_cons, List.flatMap_nil, List.append_nil, List.mem_append,
              mem_flatMap_pieces_iff, Answer.arriving, readable_append first]
            by_cases ended : .data [] ∈ stream.unread
            · simp [ended]
            · simp [ended]

/-! ## Reading -/

/-- What receiving from a smooth stream comes to: the end if there are no bytes, or a first chunk
of bytes. -/
theorem IsSmooth.receive
    (smooth : stream.IsSmooth) :
    ∃ after, after.IsSmooth ∧
      ((stream.bytes = [] ∧ stream.receive = (.ok [], after)) ∨
      ∃ byte bytes, stream.receive = (.ok (byte :: bytes), after) ∧
        stream.bytes = (byte :: bytes) ++ after.bytes ∧
        ∀ count, after.answered count = stream.answered count) := by
  unfold Stream.receive
  cases unread : stream.unread with
  | nil =>
      refine ⟨{ stream with unread := [], receives := stream.receives + 1 },
        ⟨List.forall_mem_nil _, smooth.script⟩, .inl ⟨?_, ?_⟩⟩
      · simp [Stream.bytes, unread, readable]
      · rfl
  | cons chunk rest =>
      have smoothUnread := smooth.unread
      rw [unread] at smoothUnread
      obtain ⟨first, others⟩ := List.forall_mem_cons.mp smoothUnread
      refine ⟨{ stream with unread := rest, receives := stream.receives + 1 },
        ⟨others, smooth.script⟩, ?_⟩
      cases chunk with
      | failure reason => cases first
      | data data =>
          cases data with
          | nil => exact .inl ⟨by simp [Stream.bytes, unread, readable], rfl⟩
          | cons byte bytes =>
              refine .inr ⟨byte, bytes, rfl, ?_, fun count => ?_⟩
              · simp [Stream.bytes, unread, readable]
              · simp [answered, unread]

/-- What reading a sentence comes to, given a decoder with all the bytes that are to be read: the
sentence at its front, with the bytes after it left; or an error, if they start with a malformed
sentence or with no complete one. -/
inductive Gives
    (total : Wire.Decoder)
    (stream : Stream) :
    Except Error (List Text) × Wire.Decoder × Stream → Prop
  | sentence {words rest} {after : Stream}
      (found : total.next = .ok (some (words, rest.feed after.bytes)))
      (answered_eq : ∀ count, after.answered count = stream.answered count) :
      Gives total stream (.ok words, rest, after)
  | malformed {error rest more} {after : Stream}
      (failed : rest.next = .error error)
      (left : rest.feed more = total) :
      Gives total stream (.error error, rest, after)
  | ended {after : Stream}
      (incomplete : total.next = .ok none) :
      Gives total stream (.error (endError total), total, after)

/-- Reading from a smooth stream depends on its bytes only. -/
theorem Yields.gives
    {decoder : Wire.Decoder}
    {result : Except Error (List Text) × Wire.Decoder × Stream}
    (yields : Yields decoder stream result)
    (smooth : stream.IsSmooth) :
    result.2.2.IsSmooth ∧ Gives (decoder.feed stream.bytes) stream result := by
  induction yields with
  | malformed failed => exact ⟨smooth, .malformed failed rfl⟩
  | complete found =>
      exact ⟨smooth, .sentence (Wire.Decoder.next_feed_of_some found _) (fun _ => rfl)⟩
  | lost incomplete failed =>
      obtain ⟨after, -, ⟨-, ended⟩ | ⟨byte, bytes, received, -⟩⟩ := smooth.receive
      · rw [ended] at failed
        cases failed
      · rw [received] at failed
        cases failed
  | ended incomplete nothing =>
      obtain ⟨after, afterSmooth, ⟨empty, ended⟩ | ⟨byte, bytes, received, -⟩⟩ := smooth.receive
      · rw [ended] at nothing
        cases nothing
        rw [empty, Wire.Decoder.feed_nil]
        exact ⟨afterSmooth, .ended incomplete⟩
      · rw [received] at nothing
        cases nothing
  | more incomplete received later inductionHypothesis =>
      obtain ⟨after, afterSmooth, ⟨-, ended⟩ | ⟨byte, bytes, again, bytes_eq, answered_eq⟩⟩ :=
        smooth.receive
      · rw [ended] at received
        cases received
      · rw [again] at received
        cases received
        obtain ⟨lastSmooth, gives⟩ := inductionHypothesis afterSmooth
        rw [bytes_eq, Wire.Decoder.feed_append]
        refine ⟨lastSmooth, ?_⟩
        cases gives with
        | sentence found same =>
            exact .sentence found (fun count => (same count).trans (answered_eq count))
        | malformed failed left => exact .malformed failed left
        | ended incomplete => exact .ended incomplete

theorem receives_receive (stream : Stream) :
    stream.receive.2.receives = stream.receives + 1 := by
  unfold receive
  simp only
  split <;> rfl

/-- Nothing is received as long as the decoder has a complete sentence: whenever a further piece is
received, none is complete in what has been received until then. -/
theorem next_eq_none_of_receives_lt
    {decoder : Wire.Decoder}
    {count : Nat}
    (further : stream.receives + count < (stream.readSentence decoder).2.2.receives) :
    (decoder.feed ((stream.unread.take count).flatMap Chunk.bytes)).next = .ok none := by
  have yields := yields_readSentence decoder stream
  generalize stream.readSentence decoder = result at yields further
  induction yields generalizing count with
  | malformed | complete => exact absurd further (by simp only; omega)
  | @lost decoder stream reason after incomplete failed =>
      have counted := receives_receive stream
      rw [failed] at counted
      have none_yet : count = 0 := by
        simp only at further counted
        omega
      subst none_yet
      simpa using incomplete
  | @ended decoder stream after incomplete nothing =>
      have counted := receives_receive stream
      rw [nothing] at counted
      have none_yet : count = 0 := by
        simp only at further counted
        omega
      subst none_yet
      simpa using incomplete
  | @more decoder stream byte bytes after result incomplete received later inductionHypothesis =>
      have counted := receives_receive stream
      rw [received] at counted
      cases count with
      | zero => simpa using incomplete
      | succ count =>
          rw [receive_eq_ok_cons received, List.take_succ_cons, List.flatMap_cons,
            Wire.Decoder.feed_append]
          refine inductionHypothesis ?_
          simp only at counted
          omega

end Stream
end RouterApi
