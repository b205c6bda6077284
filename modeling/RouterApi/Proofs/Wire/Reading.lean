import RouterApi.Stream
import RouterApi.Proofs.Wire.Scanning

/-!
# Reading sentences from a stream

A sentence is read by asking the decoder, and by feeding it what the stream gives as long as it asks
for more. This is stated as a relation, without a bound on the number of turns. The bound that the
reader of a stream is given is enough, and each sentence takes some of the bytes that are left.
-/

namespace RouterApi

/-! ## Reading one sentence -/

namespace Stream

/-- How the next sentence is read: asked for it, the decoder has it complete, or is malformed, or is
fed with what the stream gives. The stream may fail, and it may end. -/
inductive Yields :
    Wire.Decoder → Stream → Except Error (List Text) × Wire.Decoder × Stream → Prop
  | malformed {decoder stream error}
      (failed : decoder.next = .error error) :
      Yields decoder stream (.error error, decoder, stream)
  | complete {decoder stream words rest}
      (found : decoder.next = .ok (some (words, rest))) :
      Yields decoder stream (.ok words, rest, stream)
  | lost {decoder stream reason after}
      (incomplete : decoder.next = .ok none)
      (failed : stream.receive = (.error reason, after)) :
      Yields decoder stream (.error (.transport reason), decoder, after)
  | ended {decoder stream after}
      (incomplete : decoder.next = .ok none)
      (nothing : stream.receive = (.ok [], after)) :
      Yields decoder stream (.error (endError decoder), decoder, after)
  | more {decoder stream byte bytes after result}
      (incomplete : decoder.next = .ok none)
      (received : stream.receive = (.ok (byte :: bytes), after))
      (later : Yields (decoder.feed (byte :: bytes)) after result) :
      Yields decoder stream result

/-- A stream that gives bytes had a piece of them. -/
theorem receive_eq_ok_cons
    {stream after : Stream}
    {byte : UInt8}
    {bytes : Bytes}
    (received : stream.receive = (.ok (byte :: bytes), after)) :
    stream.unread = .data (byte :: bytes) :: after.unread := by
  unfold receive at received
  cases unread : stream.unread with
  | nil => simp [unread] at received
  | cons chunk rest =>
      cases chunk with
      | failure reason => simp [unread] at received
      | data first =>
          simp only [unread, Prod.mk.injEq, Except.ok.injEq] at received
          obtain ⟨rfl, rfl⟩ := received
          rfl

/-- Counting on from a number adds to it. -/
theorem foldl_add_eq
    {α : Type}
    (size : α → Nat)
    (items : List α)
    (start : Nat) :
    items.foldl (fun total item => total + size item) start =
      start + items.foldl (fun total item => total + size item) 0 := by
  induction items generalizing start with
  | nil => rfl
  | cons item later inductionHypothesis =>
      rw [List.foldl_cons, List.foldl_cons, inductionHypothesis (start + size item),
        inductionHypothesis (0 + size item)]
      omega

/-- Receiving bytes leaves so many less to be read. -/
theorem unreadSize_receive
    {stream after : Stream}
    {byte : UInt8}
    {bytes : Bytes}
    (received : stream.receive = (.ok (byte :: bytes), after)) :
    stream.unreadSize = bytes.length + 1 + after.unreadSize := by
  unfold unreadSize
  rw [receive_eq_ok_cons received, List.foldl_cons, foldl_add_eq, Chunk.size, List.length_cons,
    Nat.zero_add]

/-- With a turn for each piece that has arrived, the next sentence is read. -/
theorem yields_readSentenceFrom
    {fuel : Nat}
    (decoder : Wire.Decoder)
    (stream : Stream)
    (enough : stream.unread.length ≤ fuel) :
    Yields decoder stream (readSentenceFrom fuel decoder stream) := by
  unfold readSentenceFrom
  cases next : decoder.next with
  | error error => exact .malformed next
  | ok scan =>
      cases scan with
      | some found => exact .complete next
      | none =>
          cases received : stream.receive with
          | mk outcome after =>
              cases outcome with
              | error reason => exact .lost next received
              | ok data =>
                  cases data with
                  | nil => exact .ended next received
                  | cons byte bytes =>
                      rw [receive_eq_ok_cons received, List.length_cons] at enough
                      cases fuel with
                      | zero => exact absurd enough (Nat.not_succ_le_zero _)
                      | succ fuel =>
                          exact .more next received
                            (yields_readSentenceFrom _ after (Nat.le_of_succ_le_succ enough))

theorem yields_readSentence
    (decoder : Wire.Decoder)
    (stream : Stream) :
    Yields decoder stream (stream.readSentence decoder) :=
  yields_readSentenceFrom decoder stream (Nat.le_refl _)

/-- What reading from a stream keeps. -/
theorem Yields.keeps
    {decoder : Wire.Decoder}
    {stream : Stream}
    {result : Except Error (List Text) × Wire.Decoder × Stream}
    (yields : Yields decoder stream result)
    (Fact : Stream → Prop)
    (receives : ∀ stream, Fact stream → Fact stream.receive.2)
    (fact : Fact stream) :
    Fact result.2.2 := by
  induction yields with
  | malformed | complete => exact fact
  | @lost _ stream reason after _ failed =>
      have received := receives stream fact
      rwa [failed] at received
  | @ended _ stream after _ nothing =>
      have received := receives stream fact
      rwa [nothing] at received
  | @more _ stream byte bytes after _ _ received _ inductionHypothesis =>
      have kept := receives stream fact
      rw [received] at kept
      exact inductionHypothesis kept

/-- Reading a sentence does not change the encoding. -/
theorem Yields.encoding_eq
    {decoder : Wire.Decoder}
    {stream : Stream}
    {result : Except Error (List Text) × Wire.Decoder × Stream}
    (yields : Yields decoder stream result) :
    result.2.1.encoding = decoder.encoding := by
  induction yields with
  | malformed | lost | ended => rfl
  | complete found => exact Wire.Decoder.encoding_next found
  | more _ _ _ inductionHypothesis => exact inductionHypothesis

theorem Yields.readSentenceFrom_eq
    {decoder : Wire.Decoder}
    {stream : Stream}
    {result : Except Error (List Text) × Wire.Decoder × Stream}
    (yields : Yields decoder stream result)
    {fuel : Nat}
    (enough : stream.unread.length ≤ fuel) :
    readSentenceFrom fuel decoder stream = result := by
  induction yields generalizing fuel with
  | malformed failed =>
      unfold readSentenceFrom
      rw [failed]
  | complete found =>
      unfold readSentenceFrom
      rw [found]
  | lost incomplete failed =>
      unfold readSentenceFrom
      rw [incomplete, failed]
  | ended incomplete nothing =>
      unfold readSentenceFrom
      rw [incomplete, nothing]
  | more incomplete received later inductionHypothesis =>
      rw [receive_eq_ok_cons received, List.length_cons] at enough
      unfold readSentenceFrom
      rw [incomplete, received]
      cases fuel with
      | zero => exact absurd enough (Nat.not_succ_le_zero _)
      | succ fuel => exact inductionHypothesis (Nat.le_of_succ_le_succ enough)

/-- Reading the next sentence gives what the decoder and the stream yield, and nothing else. -/
theorem yields_iff
    {decoder : Wire.Decoder}
    {stream : Stream}
    {result : Except Error (List Text) × Wire.Decoder × Stream} :
    Yields decoder stream result ↔ stream.readSentence decoder = result := by
  constructor
  · intro yields
    exact yields.readSentenceFrom_eq (Nat.le_refl _)
  · rintro rfl
    exact yields_readSentence decoder stream

/-- Reading a sentence takes some of the bytes that are left, and keeps the encoding. -/
theorem Yields.progress
    {decoder rest : Wire.Decoder}
    {stream after : Stream}
    {words : List Text}
    {result : Except Error (List Text) × Wire.Decoder × Stream}
    (yields : Yields decoder stream result)
    (complete : result = (.ok words, rest, after)) :
    rest.encoding = decoder.encoding ∧
      rest.buffer.length + after.unreadSize < decoder.buffer.length + stream.unreadSize := by
  induction yields with
  | malformed | lost | ended => cases complete
  | complete found =>
      cases complete
      have shorter := Wire.Decoder.length_next_lt found
      exact ⟨Wire.Decoder.encoding_next found, by omega⟩
  | more incomplete received later inductionHypothesis =>
      obtain ⟨encoding_eq, shorter⟩ := inductionHypothesis complete
      refine ⟨encoding_eq, ?_⟩
      rw [unreadSize_receive received]
      simp only [Wire.Decoder.buffer_feed, List.length_append, List.length_cons] at shorter
      omega

/-- What ends a connection while a sentence is read: the transport fails or ends, or a length prefix
is malformed. -/
def IsBreakdown : Error → Prop
  | .transport _ | .framing (.reservedByte _) | .framing .endedInside | .closed .byDevice => True
  | _ => False

theorem isBreakdown_endError (decoder : Wire.Decoder) : IsBreakdown (endError decoder) := by
  unfold endError
  split <;> trivial

/-- In a known character set, reading a sentence only fails when the connection breaks down. -/
theorem Yields.isBreakdown
    {decoder rest : Wire.Decoder}
    {stream after : Stream}
    {charset : Charset}
    {error : Error}
    {result : Except Error (List Text) × Wire.Decoder × Stream}
    (yields : Yields decoder stream result)
    (isKnown : Encoding.charset decoder.encoding = .ok charset)
    (failed : result = (.error error, rest, after)) :
    IsBreakdown error := by
  induction yields with
  | malformed malformed =>
      cases failed
      obtain ⟨byte, rfl⟩ := Wire.Decoder.next_eq_error isKnown malformed
      trivial
  | complete => cases failed
  | lost =>
      cases failed
      trivial
  | ended =>
      cases failed
      exact isBreakdown_endError _
  | more incomplete received later inductionHypothesis =>
      exact inductionHypothesis isKnown failed

end Stream
end RouterApi
