import RouterApi.Proofs.Client.SynchronousRun
import RouterApi.Proofs.Client.Transport
import RouterApi.Proofs.Wire.Chunks
import RouterApi.Proofs.Wire.RoundTrip
import RouterApi.Proofs.Wire.Segments

/-!
# The answer to a synchronous command

A command on a synchronous connection whose transport does not fail consumes the sentences up to the
first terminal one, and no byte more. Without a terminal sentence it fails and closes the
connection.
-/

namespace RouterApi

/-- The error of a stream whose sentences end without a terminal one. -/
def Stream.endingError : Wire.Decoder.Ending → Error
  | .error error => error
  | .ok left => Stream.endError left

/-- The end of a stream is an error of the framing if bytes are left in the decoder. -/
theorem Stream.kind_endError (decoder : Wire.Decoder) :
    ((endError decoder).kind = .framing ∨ (endError decoder).kind = .connectionClosed) ∧
      (decoder.isPending = true → (endError decoder).kind = .framing) ∧
      (decoder.isPending = false → (endError decoder).kind = .connectionClosed) := by
  unfold endError
  cases decoder.isPending with
  | true => exact ⟨.inl rfl, fun _ => rfl, nofun⟩
  | false => exact ⟨.inr rfl, nofun, fun _ => rfl⟩

/-- A decoder that is malformed holds bytes. -/
theorem Wire.Decoder.isPending_of_next_eq_error
    {decoder : Wire.Decoder}
    {error : Error}
    (failed : decoder.next = .error error) :
    decoder.isPending = true := by
  obtain ⟨encoding, buffer⟩ := decoder
  cases buffer with
  | nil =>
      rw [next_fresh] at failed
      cases failed
  | cons byte rest => rfl

/-- Texts can be shown as the words of a command. -/
theorem Word.maskedAll_map_text (contents : List Text) :
    maskedAll (contents.map .text) = .ok (contents.map masked) := by
  have texts_eq : texts (contents.map .text) = .ok contents := by
    induction contents with
    | nil => rfl
    | cons content rest inductionHypothesis =>
        simp [texts, Value.asText, inductionHypothesis, Except.map]
  rw [maskedAll, texts_eq]
  rfl

namespace Client

variable {client after : Client} {words : List Text}

/-- The buffered and the arrived bytes, which no command has consumed yet. -/
def remaining (client : Client) : Wire.Decoder :=
  client.link.decoder.feed client.link.stream.bytes

/-- The bytes that follow those, once so many commands have been answered. -/
def answered
    (count : Nat)
    (client : Client) : Bytes :=
  client.link.stream.answered count

/-- All bytes that can be read once so many commands have been answered. -/
def available
    (count : Nat)
    (client : Client) : Wire.Decoder :=
  client.remaining.feed (client.answered count)

/-- Enough turns are taken for the sentences that remain. -/
theorem length_remaining_le (client : Client) :
    client.remaining.buffer.length ≤ client.unreadSize := by
  have size_le (chunks : List Chunk) :
      (Stream.readable chunks).length ≤
        chunks.foldl (fun size chunk => size + chunk.size) 0 := by
    induction chunks with
    | nil => exact Nat.le_refl 0
    | cons chunk rest inductionHypothesis =>
        rw [List.foldl_cons, Stream.foldl_add_eq]
        cases chunk with
        | failure reason => exact Nat.zero_le _
        | data bytes =>
            cases bytes with
            | nil => exact Nat.zero_le _
            | cons byte bytes =>
                rw [Stream.readable, List.length_append, Nat.zero_add]
                exact Nat.add_le_add_left inductionHypothesis _
  rw [remaining, Wire.Decoder.buffer_feed, List.length_append]
  exact Nat.add_le_add_left (size_le client.link.stream.unread) _

/-- A synchronous client is ready if it is open, its encoding is known, and its transport does not
fail. -/
structure IsReady (client : Client) : Prop where
  isOpen : client.link.isClosed = false
  synchronous : client.link.isAsynchronous = false
  readerless : client.link.reader = .absent
  smooth : client.link.stream.IsSmooth
  isKnown : ∃ charset, Encoding.charset client.link.decoder.encoding = .ok charset

/-- What closing a ready client leaves of its connection. -/
theorem IsReady.link_close (ready : client.IsReady) :
    client.close.link = client.closing.link := by
  rw [close_of_readerless ready.readerless ready.isOpen, link_shutDown ready.isOpen]

theorem IsReady.remaining_close (ready : client.IsReady) :
    client.close.remaining = client.remaining := by
  unfold remaining
  rw [ready.link_close]
  rfl

/-! ## One sentence -/

/-- A client breaks off with an error if it is closed, and its decoder has no complete sentence. -/
structure BreaksOff
    (ending : Wire.Decoder.Ending)
    (error : Error)
    (client : Client) : Prop where
  error_eq : error = Stream.endingError ending
  isClosed : client.link.isClosed = true
  unfinished : ∀ found, client.link.decoder.next ≠ .ok (some found)
  framing : client.link.decoder.isPending = true → error.kind = .framing
  lost : client.link.decoder.isPending = false → error.kind = .connectionClosed

theorem IsReady.breaksOff_close
    (ready : client.IsReady)
    {ending : Wire.Decoder.Ending}
    {error : Error}
    (error_eq : error = Stream.endingError ending)
    (unfinished : ∀ found, client.link.decoder.next ≠ .ok (some found))
    (framing : client.link.decoder.isPending = true → error.kind = .framing)
    (lost : client.link.decoder.isPending = false → error.kind = .connectionClosed) :
    client.close.BreaksOff ending error := by
  have decoder_eq : client.close.link.decoder = client.link.decoder := by
    rw [ready.link_close]
    rfl
  constructor
  · exact error_eq
  · exact isClosed_close client
  · rw [decoder_eq]
    exact unfinished
  · rw [decoder_eq]
    exact framing
  · rw [decoder_eq]
    exact lost

/-- The client with another decoder and stream. -/
def exchanging
    (decoder : Wire.Decoder)
    (stream : Stream)
    (client : Client) : Client :=
  client.modifyLink ({ · with decoder, stream })

theorem IsReady.exchanging
    (ready : client.IsReady)
    {decoder : Wire.Decoder}
    {stream : Stream}
    (smooth : stream.IsSmooth)
    (encoding_eq : decoder.encoding = client.link.decoder.encoding) :
    (client.exchanging decoder stream).IsReady where
  isOpen := ready.isOpen
  synchronous := ready.synchronous
  readerless := ready.readerless
  smooth := smooth
  isKnown := encoding_eq ▸ ready.isKnown

/-- A ready client reads the sentence at the front of what remains. -/
theorem IsReady.readSentence_of_some
    (ready : client.IsReady)
    {words : List Text}
    {rest : Wire.Decoder}
    (found : client.remaining.next = .ok (some (words, rest))) :
    ∃ after, client.readSentence = (.ok (Sentence.ofTexts words), after) ∧ after.IsReady ∧
      after.remaining = rest ∧ ∀ count, after.answered count = client.answered count := by
  have yields := Stream.yields_readSentence client.link.decoder client.link.stream
  generalize client.link.stream.readSentence client.link.decoder = result at yields
  obtain ⟨smooth, gives⟩ := yields.gives ready.smooth
  have found : (client.link.decoder.feed client.link.stream.bytes).next =
      .ok (some (words, rest)) := found
  cases gives with
  | @sentence contents left stream next answered_eq =>
      cases next.symm.trans found
      obtain ⟨encoding_eq, -⟩ := yields.progress rfl
      have exchanged := ready.exchanging smooth encoding_eq
      refine ⟨_, readSentence_of_ok yields, ?_, rfl, answered_eq⟩
      exact ⟨exchanged.isOpen, exchanged.synchronous, exchanged.readerless, exchanged.smooth,
        exchanged.isKnown⟩
  | @malformed error left more stream failed left_eq =>
      have failed := Wire.Decoder.next_feed_of_error failed more
      rw [left_eq, found] at failed
      cases failed
  | ended incomplete =>
      rw [found] at incomplete
      cases incomplete

/-- An error of the framing or the end of the stream closes the connection. -/
theorem readSentence_of_broken
    {error : Error}
    {decoder : Wire.Decoder}
    {stream : Stream}
    (failed : Stream.Yields client.link.decoder client.link.stream (.error error, decoder, stream))
    (kind : error.kind = .framing ∨ error.kind = .connectionClosed) :
    client.readSentence = (.error error, close (client.exchanging decoder stream)) := by
  have isApi : error.kind.isApi = true := by rcases kind with same | same <;> rw [same] <;> rfl
  unfold readSentence
  rw [Stream.yields_iff.mp failed]
  cases error with
  | transport reason => rcases kind with same | same <;> cases same
  | _ => simp only [isApi, if_true, exchanging]

/-- Without a sentence at the front of what remains, it breaks off. -/
theorem IsReady.readSentence_of_drains
    (ready : client.IsReady)
    {ending : Wire.Decoder.Ending}
    (drains : Wire.Decoder.Drains client.remaining [] ending) :
    ∃ error after, client.readSentence = (.error error, after) ∧ after.BreaksOff ending error := by
  have yields := Stream.yields_readSentence client.link.decoder client.link.stream
  generalize client.link.stream.readSentence client.link.decoder = result at yields
  obtain ⟨smooth, gives⟩ := yields.gives ready.smooth
  cases gives with
  | @sentence contents left stream found =>
      cases drains with
      | malformed failed => cases found.symm.trans failed
      | exhausted incomplete => cases found.symm.trans incomplete
  | @malformed error left more stream failed left_eq =>
      have encoding_eq : (left.feed more).encoding = client.remaining.encoding :=
        congrArg Wire.Decoder.encoding left_eq
      have exchanged : (client.exchanging left stream).IsReady :=
        ready.exchanging smooth encoding_eq
      obtain ⟨charset, isKnown⟩ := exchanged.isKnown
      obtain ⟨byte, rfl⟩ := Wire.Decoder.next_eq_error isKnown failed
      have pending := Wire.Decoder.isPending_of_next_eq_error failed
      have failedWhole := Wire.Decoder.next_feed_of_error failed more
      rw [left_eq] at failedWhole
      refine ⟨_, _, readSentence_of_broken yields (.inl rfl), exchanged.breaksOff_close ?_ ?_
        (fun _ => rfl) ?_⟩
      · cases drains with
        | malformed malformed =>
            cases failedWhole.symm.trans malformed
            rfl
        | exhausted incomplete => cases failedWhole.symm.trans incomplete
      · intro found complete
        cases failed.symm.trans complete
      · intro idle
        cases pending.symm.trans idle
  | @ended stream incomplete =>
      have exchanged : (client.exchanging client.remaining stream).IsReady :=
        ready.exchanging smooth rfl
      have kind := Stream.kind_endError client.remaining
      refine ⟨_, _, readSentence_of_broken yields kind.1, exchanged.breaksOff_close ?_ ?_ kind.2.1
        kind.2.2⟩
      · cases drains with
        | malformed failed => cases incomplete.symm.trans failed
        | exhausted => rfl
      · intro found complete
        cases incomplete.symm.trans complete

/-! ## One reply -/

/-- What reading a reply comes to, given the sentences that remain and how they end: the first
segment is folded into the reply, and the rest remains; or there is no complete segment. -/
inductive Answers
    (client : Client)
    (reply : Reply)
    (contents : List (List Text))
    (ending : Wire.Decoder.Ending) : Except Error Reply × Client → Prop
  | answered {segment later after}
      (contents_eq : contents = segment ++ later)
      (complete : IsComplete (segment.map Sentence.ofTexts))
      (ready : after.IsReady)
      (answered_eq : ∀ count, after.answered count = client.answered count)
      (leads : Wire.Decoder.Leads client.remaining segment after.remaining)
      (drains : Wire.Decoder.Drains after.remaining later ending) :
      Answers client reply contents ending
        (.ok ((segment.map Sentence.ofTexts).foldl Reply.process reply), after)
  | broken {error after}
      (nonterminal : ∀ sentence ∈ contents.map Sentence.ofTexts, sentence.isTerminal = false)
      (breaksOff : after.BreaksOff ending error) :
      Answers client reply contents ending (.error error, after)

/-- A sentence that is not terminal is followed by the rest of the answer. -/
theorem Answers.next
    {reply : Reply}
    {words : List Text}
    {contents : List (List Text)}
    {ending : Wire.Decoder.Ending}
    {result : Except Error Reply × Client}
    (answers : Answers after (reply.process (.ofTexts words)) contents ending result)
    (found : client.remaining.next = .ok (some (words, after.remaining)))
    (goesOn : (Sentence.ofTexts words).isTerminal = false)
    (answered_eq : ∀ count, after.answered count = client.answered count) :
    Answers client reply (words :: contents) ending result := by
  cases answers with
  | @answered segment later last contents_eq complete ready lastAnswered leads drains =>
      subst contents_eq
      have wholeComplete : IsComplete ((words :: segment).map Sentence.ofTexts) :=
        complete.cons goesOn
      exact .answered rfl wholeComplete ready
        (fun count => (lastAnswered count).trans (answered_eq count)) (.step found leads) drains
  | broken nonterminal breaksOff =>
      exact .broken (List.forall_mem_cons.mpr ⟨goesOn, nonterminal⟩) breaksOff

/-- Reading a reply takes the first complete segment of what remains, or breaks off. -/
theorem IsReady.answers
    {decoder : Wire.Decoder}
    {contents : List (List Text)}
    {ending : Wire.Decoder.Ending}
    (drains : Wire.Decoder.Drains decoder contents ending)
    (ready : client.IsReady)
    (remaining_eq : client.remaining = decoder)
    {fuel : Nat}
    (enough : decoder.buffer.length < fuel)
    (reply : Reply) :
    Answers client reply contents ending (readReplyFrom fuel reply client) := by
  induction drains generalizing client fuel reply with
  | malformed failed =>
      subst remaining_eq
      obtain ⟨error, after, read, breaksOff⟩ := ready.readSentence_of_drains (.malformed failed)
      cases fuel with
      | zero => exact absurd enough (Nat.not_lt_zero _)
      | succ fuel =>
          simp only [readReplyFrom, read]
          exact .broken (List.forall_mem_nil _) breaksOff
  | exhausted incomplete =>
      subst remaining_eq
      obtain ⟨error, after, read, breaksOff⟩ := ready.readSentence_of_drains (.exhausted incomplete)
      cases fuel with
      | zero => exact absurd enough (Nat.not_lt_zero _)
      | succ fuel =>
          simp only [readReplyFrom, read]
          exact .broken (List.forall_mem_nil _) breaksOff
  | @sentence decoder rest words contents ending found later inductionHypothesis =>
      subst remaining_eq
      obtain ⟨after, read, stillReady, rest_eq, answered_eq⟩ := ready.readSentence_of_some found
      cases fuel with
      | zero => exact absurd enough (Nat.not_lt_zero _)
      | succ fuel =>
          simp only [readReplyFrom, read]
          cases terminal : (Sentence.ofTexts words).isTerminal with
          | true =>
              have complete : IsComplete ([words].map Sentence.ofTexts) :=
                ⟨[], _, rfl, List.forall_mem_nil _, terminal⟩
              have leads : Wire.Decoder.Leads client.remaining [words] after.remaining :=
                .step found (rest_eq ▸ .refl)
              simp only [if_true]
              exact .answered rfl complete stillReady answered_eq leads (rest_eq ▸ later)
          | false =>
              have shorter := Wire.Decoder.length_next_lt found
              have rest_answers := inductionHypothesis stillReady rest_eq
                (Nat.lt_of_lt_of_le shorter (Nat.le_of_lt_succ enough))
                (reply.process (Sentence.ofTexts words))
              simp only [Bool.false_eq_true, if_false]
              exact rest_answers.next (rest_eq ▸ found) terminal answered_eq

/-! ## One command -/

/-- The outcome of something that does not wait. -/
def outcomeOf {α : Type} : Except Error α → Outcome α
  | .ok value => .returned value
  | .error error => .raised error

/-- An answer leaves the connection open unless its first failure is a fatal sentence. -/
def LeavesOpen (segment : List Sentence) : Prop :=
  ∀ sentence, (segment.foldl Reply.process {}).failure ≠ some (.fatal sentence)

/-- What running a command comes to, given the sentences that are there once it has been written and
how they end: its outcome is the result of the first segment, and exactly that segment has been
consumed; or there is no complete segment, and the client has broken off. -/
inductive Conducts
    (client : Client)
    (contents : List (List Text))
    (ending : Wire.Decoder.Ending) : Outcome Reply × Client → Prop
  | answered {segment later after}
      (contents_eq : contents = segment ++ later)
      (complete : IsComplete (segment.map Sentence.ofTexts))
      (open_iff : after.link.isClosed = false ↔ LeavesOpen (segment.map Sentence.ofTexts))
      (ready : after.link.isClosed = false → after.IsReady)
      (answered_succ : ∀ count,
        client.answered (count + 1) = client.answered 1 ++ after.answered count)
      (leads : Wire.Decoder.Leads (client.available 1) segment after.remaining)
      (drains : Wire.Decoder.Drains after.remaining later ending) :
      Conducts client contents ending
        (outcomeOf ((segment.map Sentence.ofTexts).foldl Reply.process {}).result, after)
  | broken {error after}
      (nonterminal : ∀ sentence ∈ contents.map Sentence.ofTexts, sentence.isTerminal = false)
      (breaksOff : after.BreaksOff ending error) :
      Conducts client contents ending (.raised error, after)

/-- The client after a command has been shown in its log and written. -/
def sending
    (shown : List Text)
    (stream : Stream)
    (client : Client) : Client :=
  (client.showing shown).modifyLink ({ · with stream })

/-- A ready client that has written a command is ready to read its answer. -/
theorem IsReady.sending
    (ready : client.IsReady)
    {stream : Stream}
    (smooth : stream.IsSmooth)
    (shown : List Text) :
    (client.sending shown stream).IsReady where
  isOpen := ready.isOpen
  synchronous := ready.synchronous
  readerless := ready.readerless
  smooth := smooth
  isKnown := ready.isKnown

/-- The result of a reply that has been read. A fatal sentence that is the first failure closes the
connection, which leaves what remains as it is. -/
theorem Answers.readReply
    {contents : List (List Text)}
    {ending : Wire.Decoder.Ending}
    (answers : Answers client {} contents ending
      (readReplyFrom (client.unreadSize + 1) {} client)) :
    ∃ result after, client.readReply = (result, after) ∧
      ((∃ error, result = .error error ∧ after.BreaksOff ending error ∧
        ∀ sentence ∈ contents.map Sentence.ofTexts, sentence.isTerminal = false) ∨
      ∃ segment later, contents = segment ++ later ∧
        IsComplete (segment.map Sentence.ofTexts) ∧
        result = ((segment.map Sentence.ofTexts).foldl Reply.process {}).result ∧
        (after.link.isClosed = false ↔ LeavesOpen (segment.map Sentence.ofTexts)) ∧
        (after.link.isClosed = false → after.IsReady) ∧
        (∀ count, after.answered count = client.answered count) ∧
        Wire.Decoder.Leads client.remaining segment after.remaining ∧
        Wire.Decoder.Drains after.remaining later ending) := by
  unfold Client.readReply
  generalize readReplyFrom (client.unreadSize + 1) {} client = read at answers
  cases answers with
  | broken nonterminal breaksOff =>
      exact ⟨_, _, rfl, .inl ⟨_, rfl, breaksOff, nonterminal⟩⟩
  | @answered segment later after contents_eq complete ready answered_eq leads drains =>
      have isClosed : after.close.link.isClosed ≠ false := by simp [isClosed_close]
      simp only
      split
      · rename_i sentence failure
        refine ⟨_, _, rfl, .inr ⟨segment, later, contents_eq, complete, rfl, ?_,
          fun isOpen => absurd isOpen isClosed, ?_, ?_, ?_⟩⟩
        · exact ⟨fun isOpen => absurd isOpen isClosed,
            fun leaves => absurd failure (leaves sentence)⟩
        · unfold Client.answered
          rw [ready.link_close]
          exact answered_eq
        · rw [ready.remaining_close]
          exact leads
        · rw [ready.remaining_close]
          exact drains
      · rename_i notFatal
        exact ⟨_, _, rfl, .inr ⟨segment, later, contents_eq, complete, rfl,
          ⟨fun _ => notFatal, fun _ => ready.isOpen⟩, fun _ => ready, answered_eq, leads, drains⟩⟩

/-- A command that can be encoded consumes the first segment of what remains and of the answer to
it, or breaks off. -/
theorem IsReady.conducts
    (ready : client.IsReady)
    {words : List Text}
    {data : Bytes}
    (encoded : Wire.encodeSentence client.link.decoder.encoding (words.map .text) = .ok data)
    {contents : List (List Text)}
    {ending : Wire.Decoder.Ending}
    (drains : Wire.Decoder.Drains (client.available 1) contents ending) :
    Conducts client contents ending
      (client.run (words.map .text)) := by
  obtain ⟨stream, sent, smooth, bytes_eq, answered_succ⟩ := ready.smooth.send data
  have written : write close (words.map .text) client =
      (.ok (), client.sending (words.map Word.masked) stream) :=
    write_of_sent close encoded ready.isOpen (Word.maskedAll_map_text words) sent
  have sendingReady := ready.sending smooth (words.map Word.masked)
  have remaining_eq : (client.sending (words.map Word.masked) stream).remaining =
      client.available 1 := by
    show client.link.decoder.feed stream.bytes = _
    rw [bytes_eq, Wire.Decoder.feed_append]
    rfl
  have enough : (client.available 1).buffer.length <
      (client.sending (words.map Word.masked) stream).unreadSize + 1 := by
    rw [← remaining_eq]
    exact Nat.lt_succ_of_le (length_remaining_le _)
  have answers := sendingReady.answers drains remaining_eq enough {}
  obtain ⟨result, after, read, outcomes⟩ := answers.readReply
  have run_eq : client.run (words.map .text) = (outcomeOf result, after) := by
    simp only [run, ready.synchronous, runSync, written, read]
    cases result <;> rfl
  rw [run_eq]
  rcases outcomes with ⟨error, rfl, breaksOff, nonterminal⟩ |
    ⟨segment, later, contents_eq, complete, rfl, open_iff, stillReady, answered_eq, leads, rest⟩
  · exact .broken nonterminal breaksOff
  · refine .answered contents_eq complete open_iff stillReady (fun count => ?_)
      (remaining_eq ▸ leads) rest
    rw [answered_eq]
    exact answered_succ count

/-- Whether a command can be encoded for a client. -/
def CanEncode
    (words : List Text)
    (client : Client) : Prop :=
  ∃ data, Wire.encodeSentence client.link.decoder.encoding (words.map .text) = .ok data

theorem CanEncode.of_encoding_eq
    (encoding_eq : after.link.decoder.encoding = client.link.decoder.encoding)
    (canEncode : client.CanEncode words) :
    after.CanEncode words := by
  unfold CanEncode
  rw [encoding_eq]
  exact canEncode

/-! ## A connection without failures -/

/-- A synchronous connection whose commands are answered in given chunks. -/
def receiving (answers : List (List Bytes)) : Client where
  link :=
    { stream := { script := answers.map fun chunks => .chunks (chunks.map .data) }
      secure := .bool false
      cleartext := .bool false
      queueSize := .int 0
      decoder := { encoding := .text Charset.utf8.commonName } }

theorem isReady_receiving (answers : List (List Bytes)) : (receiving answers).IsReady where
  isOpen := rfl
  synchronous := rfl
  readerless := rfl
  smooth :=
    { unread := List.forall_mem_nil _
      script := by
        intro answer member
        obtain ⟨chunks, -, rfl⟩ := List.mem_map.mp member
        intro chunk chunkMember
        obtain ⟨bytes, -, rfl⟩ := List.mem_map.mp chunkMember
        trivial }
  isKnown := ⟨.utf8, Encoding.charset_commonName .utf8⟩

end Client
end RouterApi
