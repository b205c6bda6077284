import RouterApi.Proofs.Client.Awaiting
import RouterApi.Proofs.Client.Receiving
import RouterApi.Proofs.Content

/-!
# Waiting for an asynchronous reply

The reader of an asynchronous connection folds the sentences of a command into its request, up to
the first terminal one, or until the stream ends. From then on nothing changes the request any more,
and whoever waits for it gets its answer.
-/

namespace RouterApi

namespace Wire
namespace Decoder

/-- How draining goes on when more bytes arrive: not at all after an error, and else from what was
left. -/
inductive Proceeds
    (more : Bytes)
    (earlier : List (List Text)) : Ending → List (List Text) → Ending → Prop
  | failed error :
      Proceeds more earlier (.error error) earlier (.error error)
  | resumed {rest later ending}
      (incomplete : rest.next = .ok none)
      (drains : Drains (rest.feed more) later ending) :
      Proceeds more earlier (.ok rest) (earlier ++ later) ending

/-- In a known character set, what ends a stream is not about the content of a value. -/
theorem Drains.isAboutValue_eq_false
    {decoder : Decoder}
    {contents : List (List Text)}
    {ending : Ending}
    {charset : Charset}
    (drains : Drains decoder contents ending)
    (isKnown : Encoding.charset decoder.encoding = .ok charset)
    (error : Error)
    (failed : ending = .error error) :
    error.kind.isAboutValue = false := by
  induction drains with
  | malformed malformed =>
      cases failed
      obtain ⟨byte, rfl⟩ := next_eq_error isKnown malformed
      rfl
  | exhausted => cases failed
  | sentence found _ inductionHypothesis =>
      exact inductionHypothesis (encoding_next found ▸ isKnown) failed

variable {more : Bytes} {earlier contents : List (List Text)} {last ending : Ending}

theorem Proceeds.prepend
    (proceeds : Proceeds more contents last earlier ending)
    (first : List (List Text)) :
    Proceeds more (first ++ contents) last (first ++ earlier) ending := by
  cases proceeds with
  | failed error => exact .failed error
  | resumed incomplete drains =>
      rw [← List.append_assoc]
      exact .resumed incomplete drains

theorem Proceeds.exists_append (proceeds : Proceeds more earlier last contents ending) :
    ∃ later, contents = earlier ++ later := by
  cases proceeds with
  | failed error => exact ⟨[], (List.append_nil earlier).symm⟩
  | resumed incomplete drains => exact ⟨_, rfl⟩

/-- Bytes that arrive in two parts are drained one part after the other, up to an error. -/
theorem Drains.exists_proceeds
    {decoder : Decoder}
    {first : Bytes}
    (drains : Drains (decoder.feed (first ++ more)) contents ending) :
    ∃ earlier last, Drains (decoder.feed first) earlier last ∧
      Proceeds more earlier last contents ending := by
  have firstDrains := drains_drain (decoder.feed first)
  refine ⟨_, _, firstDrains, ?_⟩
  rw [feed_append] at drains
  have whole := drain_eq_iff.mpr drains
  generalize (decoder.feed first).drain.1 = earlier at firstDrains ⊢
  cases last : (decoder.feed first).drain.2 with
  | error error =>
      have same := drain_eq_iff.mpr (firstDrains.feed_of_error last more)
      cases whole.symm.trans same
      exact .failed error
  | ok rest =>
      have laterDrains := drains_drain (rest.feed more)
      have same := drain_eq_iff.mpr (firstDrains.feed last laterDrains)
      cases whole.symm.trans same
      exact .resumed (firstDrains.next_eq_none last) laterDrains

end Decoder
end Wire

namespace Stream

variable {chunks : List Chunk} {stream : Stream}

theorem spanData_of_smooth (smooth : ∀ chunk ∈ chunks, chunk.IsSmooth) :
    spanData chunks = (chunks.flatMap Chunk.bytes, []) := by
  induction chunks with
  | nil => rfl
  | cons chunk rest inductionHypothesis =>
      obtain ⟨first, others⟩ := List.forall_mem_cons.mp smooth
      cases chunk with
      | failure reason => cases first
      | data bytes => rw [spanData, inductionHypothesis others, List.flatMap_cons, Chunk.bytes]

/-- All bytes that have arrived are taken at once. -/
theorem takeArrived_of_bytes
    (smooth : ∀ chunk ∈ stream.unread, chunk.IsSmooth)
    (arrived : stream.unread.flatMap Chunk.bytes ≠ []) :
    stream.takeArrived =
      (.data (stream.unread.flatMap Chunk.bytes), { stream with unread := [] }) := by
  rw [takeArrived, spanData_of_smooth smooth]
  cases bytes : stream.unread.flatMap Chunk.bytes with
  | nil => exact absurd bytes arrived
  | cons byte more => rfl

/-- Without bytes, the end of the stream shows once the device has hung up. -/
theorem takeArrived_of_nil
    (smooth : ∀ chunk ∈ stream.unread, chunk.IsSmooth)
    (nothing : stream.unread.flatMap Chunk.bytes = []) :
    stream.takeArrived =
      (if stream.hungUp then .ended else .nothing, { stream with unread := [] }) := by
  rw [takeArrived, spanData_of_smooth smooth, nothing]

theorem flatMap_bytes_pieces (chunk : Chunk) :
    (pieces chunk).flatMap Chunk.bytes = chunk.bytes := by
  cases chunk with
  | failure reason => rfl
  | data bytes =>
      have flat := flatten_piecesFrom (bytes.length / receiveSize) bytes
      rw [← List.flatMap_id] at flat
      rw [pieces, List.flatMap_map]
      exact flat

end Stream

namespace Client

variable {client after : Client} {number : Nat} {tag : Text} {words : List Word} {reply : Reply}
  {sentence : Sentence} {answer : Outcome Reply}

/-- A request has an answer for good if nothing changes it any more. -/
def HasAnswer
    (number : Nat)
    (answer : Outcome Reply)
    (client : Client) : Prop :=
  ∃ request, client.IsOutOfReach number request ∧ request.answer = answer

theorem HasAnswer.await_eq (hasAnswer : client.HasAnswer number answer) :
    client.await number = answer := by
  obtain ⟨request, away, rfl⟩ := hasAnswer
  exact await_eq_of_request? away.known

/-- An answer lasts. -/
theorem HasAnswer.keeps
    (hasAnswer : client.HasAnswer number answer)
    (keeps : ∀ request, client.IsOutOfReach number request → after.IsOutOfReach number request) :
    after.HasAnswer number answer := by
  obtain ⟨request, away, answer_eq⟩ := hasAnswer
  exact ⟨request, keeps request away, answer_eq⟩

/-! ## Expected sentences -/

/-- A client expects more sentences of a reply if its reader waits for them, and the tag of the
request leads to it. -/
structure Expects
    (number : Nat)
    (tag : Text)
    (words : List Word)
    (reply : Reply)
    (client : Client) : Prop where
  isOpen : client.link.isClosed = false
  asynchronous : client.link.isAsynchronous = true
  reading : client.link.reader = .reading
  sound : client.IsSound
  known : client.request? number = some (awaited tag words reply)
  found : client.lookup? tag = some number

theorem Expects.await_eq (expects : client.Expects number tag words reply) :
    client.await number = .waiting :=
  await_eq_of_request? expects.known

theorem Expects.log
    (expects : client.Expects number tag words reply)
    (level : LogLevel)
    (source : LogSource)
    (message : Text) :
    Expects number tag words reply (client.log level source message) where
  isOpen := expects.isOpen
  asynchronous := expects.asynchronous
  reading := expects.reading
  sound := ⟨expects.sound.distinct, expects.sound.owned⟩
  known := expects.known
  found := expects.found

/-- Nothing about an expected request depends on the stream. -/
theorem Expects.withStream
    (expects : client.Expects number tag words reply)
    (stream : Stream) :
    Expects number tag words reply
      (client.modifyLink fun link => { link with stream := stream }) where
  isOpen := expects.isOpen
  asynchronous := expects.asynchronous
  reading := expects.reading
  sound := ⟨expects.sound.distinct, expects.sound.owned⟩
  known := expects.known
  found := expects.found

theorem Expects.isAwaited (expects : client.Expects number tag words reply) :
    client.IsAwaited number tag words reply :=
  ⟨expects.sound, expects.known, expects.found⟩

theorem Expects.folded
    (expects : client.Expects number tag words reply)
    (sentence : Sentence) :
    (client.folded number sentence).Expects number tag words (reply.process sentence) where
  isOpen := expects.isOpen
  asynchronous := expects.asynchronous
  reading := expects.reading
  sound := (expects.isAwaited.folded sentence).sound
  known := (expects.isAwaited.folded sentence).known
  found := expects.found

/-- A sentence belongs to a tag if it carries it, or has no words at all. -/
def BelongsTo
    (tag : Text)
    (sentence : Sentence) : Prop :=
  sentence = .empty ∨ sentence.tag = some tag

/-- A sentence that is not terminal is folded into the reply. -/
theorem Expects.dispatch_of_nonterminal
    (expects : client.Expects number tag words reply)
    (belongs : BelongsTo tag sentence)
    (goesOn : sentence.isTerminal = false) :
    ∃ after : Client, client.dispatch readerHost sentence = (.handled, after) ∧
      after.Expects number tag words (reply.process sentence) ∧ after.link = client.link := by
  rcases belongs with rfl | own
  · exact ⟨client, rfl, expects, rfl⟩
  · refine ⟨client.folded number sentence, ?_, expects.folded sentence, rfl⟩
    rw [Session.dispatch_of_lookup?_eq_some readerHost own expects.found]
    exact expects.isAwaited.feed_of_nonterminal goesOn

/-- A completed request is out of reach once it is out of the table. -/
theorem Expects.isOutOfReach_retired
    (expects : client.Expects number tag words reply)
    (error : Option Error) :
    (client.retired tag number error).IsOutOfReach number
      { awaited tag words reply with outcome := some error } where
  known := (expects.isAwaited.rests_retired error).known
  unlisted := (expects.isAwaited.rests_retired error).unlisted
  unheld := by
    intro held sentence later ending stalled
    have reading : (client.retired tag number error).link.reader = .reading := expects.reading
    rw [reading] at stalled
    contradiction
  asynchronous := expects.asynchronous

/-- The terminal sentence completes the request with the result of its reply. -/
theorem Expects.dispatch_of_terminal
    (expects : client.Expects number tag words reply)
    (own : sentence.tag = some tag)
    (terminal : sentence.isTerminal = true) :
    HasAnswer number (outcomeOf (reply.process sentence).result)
        (client.dispatch readerHost sentence).2 ∧
      ∀ held, (client.dispatch readerHost sentence).1 ≠ .stalled held := by
  have folded := expects.folded sentence
  have dispatched : client.dispatch readerHost sentence =
      (if sentence.control = .fatal then .raised (.reported (.fatal sentence) none) else .handled,
        (client.folded number sentence).retired tag number (reply.process sentence).error?) := by
    rw [Session.dispatch_of_lookup?_eq_some readerHost own expects.found]
    exact expects.isAwaited.feed_of_terminal terminal
  rw [dispatched]
  refine ⟨⟨_, folded.isOutOfReach_retired _, answer_of_terminal terminal tag words reply⟩,
    fun held => ?_⟩
  · simp only
    split
    · exact nofun
    · exact nofun

/-! ## The reader -/

/-- The end of the reader is the answer to an expected request. -/
theorem Expects.endReader
    (expects : client.Expects number tag words reply)
    (error : Error) :
    HasAnswer number (.raised error) (endReader error client) := by
  have listed : number ∈ client.listed :=
    List.mem_map.mpr ⟨_, Assoc.mem_of_get?_eq_some expects.found, rfl⟩
  have completed := outcome?_endReader error client number
  rw [if_pos listed, Session.outcome?_of_request?_eq_some expects.known] at completed
  obtain ⟨request, known, outcome_eq⟩ := Option.map_eq_some_iff.mp completed
  refine ⟨request, ⟨known, fun other member => ?_, fun stalled => ?_, ?_⟩, ?_⟩
  · rw [(isCutOff_endReader error client).empty] at member
    contradiction
  · rw [reader_endReader] at stalled
    contradiction
  · exact (stable_isAsynchronous true).endReader error expects.asynchronous
  · rw [Request.answer, outcome_eq]
    rfl

/-- What reading sentences comes to for a client that expects them. The request has its answer, from
the first terminal sentence or from the error that ended the reader; or the sentences have been
folded into the reply, and more are expected. -/
inductive Reads
    (number : Nat)
    (tag : Text)
    (words : List Word)
    (reply : Reply)
    (stream : Stream)
    (sentences : List Sentence) : Wire.Decoder.Ending → Client → Prop
  | answered {ending segment later after}
      (sentences_eq : sentences = segment ++ later)
      (complete : IsComplete segment)
      (hasAnswer :
        HasAnswer number (outcomeOf (segment.foldl Reply.process reply).result) after) :
      Reads number tag words reply stream sentences ending after
  | broken {error after}
      (nonterminal : ∀ sentence ∈ sentences, sentence.isTerminal = false)
      (hasAnswer : HasAnswer number (.raised error) after) :
      Reads number tag words reply stream sentences (.error error) after
  | expecting {rest after}
      (nonterminal : ∀ sentence ∈ sentences, sentence.isTerminal = false)
      (expects : Expects number tag words (sentences.foldl Reply.process reply) after)
      (decoder_eq : after.link.decoder = rest)
      (stream_eq : after.link.stream = stream) :
      Reads number tag words reply stream sentences (.ok rest) after

variable {stream : Stream} {sentences : List Sentence} {ending : Wire.Decoder.Ending}

theorem Reads.cons
    (reads : Reads number tag words (reply.process sentence) stream sentences ending after)
    (goesOn : sentence.isTerminal = false) :
    Reads number tag words reply stream (sentence :: sentences) ending after := by
  cases reads with
  | answered sentences_eq complete hasAnswer =>
      subst sentences_eq
      exact .answered rfl (complete.cons goesOn) hasAnswer
  | broken nonterminal hasAnswer =>
      exact .broken (List.forall_mem_cons.mpr ⟨goesOn, nonterminal⟩) hasAnswer
  | expecting nonterminal expects decoder_eq stream_eq =>
      exact .expecting (List.forall_mem_cons.mpr ⟨goesOn, nonterminal⟩) expects decoder_eq stream_eq

/-- Dispatching decoded sentences of an expected reply. -/
theorem Expects.reads_consume
    {contents : List (List Text)}
    (expects : client.Expects number tag words reply)
    (belong : ∀ sentence ∈ contents.map Sentence.ofTexts, BelongsTo tag sentence)
    (notAboutValue : ∀ error, ending = .error error → error.kind.isAboutValue = false) :
    Reads number tag words reply client.link.stream (contents.map Sentence.ofTexts) ending
      (consume contents ending client) := by
  induction contents generalizing client reply with
  | nil =>
      cases ending with
      | ok rest =>
          refine .expecting (List.forall_mem_nil _) ?_ rfl rfl
          exact ⟨expects.isOpen, expects.asynchronous, rfl,
            ⟨expects.sound.distinct, expects.sound.owned⟩, expects.known, expects.found⟩
      | error error =>
          refine .broken (List.forall_mem_nil _) ?_
          have same : decoderEnd error client = error := by
            rw [decoderEnd, if_neg (by simp [notAboutValue error rfl])]
          rw [consume, same]
          exact expects.endReader error
  | cons texts later inductionHypothesis =>
      obtain ⟨belongs, belongLater⟩ := List.forall_mem_cons.mp belong
      have logged := expects.log .debug .request
        (literal "<<< " ++ (Sentence.ofTexts texts).summary)
      rw [List.map_cons]
      cases terminal : (Sentence.ofTexts texts).isTerminal with
      | false =>
          obtain ⟨after, dispatched, expectsMore, link_eq⟩ :=
            logged.dispatch_of_nonterminal belongs terminal
          have reads := inductionHypothesis expectsMore belongLater
          rw [link_eq] at reads
          simp only [consume, dispatched]
          exact reads.cons terminal
      | true =>
          have own : (Sentence.ofTexts texts).tag = some tag := by
            rcases belongs with empty | own
            · rw [empty] at terminal
              contradiction
            · exact own
          obtain ⟨answered, handled⟩ := logged.dispatch_of_terminal own terminal
          refine .answered (List.singleton_append.symm)
            ⟨[], _, rfl, List.forall_mem_nil _, terminal⟩ ?_
          simp only [consume]
          cases result : Session.dispatch readerHost (Sentence.ofTexts texts) _ with
          | mk outcome after =>
              rw [result] at answered handled
              -- Whatever the reader does next, it does not reach the request any more.
              refine answered.keeps fun request away => ?_
              have lasting := lasting_isOutOfReach number request
              cases outcome with
              | handled => exact lasting.toStable.consume later ending away
              | raised error => exact lasting.toStable.endReader error away
              | stalled held => exact absurd rfl (handled held)

/-! ## Arriving bytes -/

/-- All bytes that have arrived for the reader of a client. -/
def arrived (client : Client) : Wire.Decoder :=
  client.link.decoder.feed (client.link.stream.unread.flatMap Chunk.bytes)

/-- A stream is at rest if nothing in it waits to be read, and the device has not hung up. -/
structure IsAtRest (stream : Stream) : Prop where
  smooth : ∀ chunk ∈ stream.unread, chunk.IsSmooth
  nothing : stream.unread.flatMap Chunk.bytes = []
  connected : stream.hungUp = false

/-- A stream from which everything has been taken. -/
theorem isAtRest_taken (connected : stream.hungUp = false) :
    IsAtRest { stream with unread := [] } :=
  ⟨List.forall_mem_nil _, rfl, connected⟩

/-- What arrives at a stream at rest is all that it holds. -/
theorem IsAtRest.bytes_arrive
    (atRest : IsAtRest stream)
    (chunk : Chunk) :
    (stream.arrive [chunk]).unread.flatMap Chunk.bytes = chunk.bytes := by
  rw [Stream.arrive, List.flatMap_cons, List.flatMap_nil, List.append_nil, List.flatMap_append,
    atRest.nothing, List.nil_append, Stream.flatMap_bytes_pieces]

theorem IsAtRest.smooth_arrive
    {chunk : Chunk}
    (atRest : IsAtRest stream)
    (smooth : chunk.IsSmooth) :
    ∀ piece ∈ (stream.arrive [chunk]).unread, piece.IsSmooth := by
  rw [Stream.arrive, List.flatMap_cons, List.flatMap_nil, List.append_nil]
  intro piece member
  rcases List.mem_append.mp member with earlier | new
  · exact atRest.smooth piece earlier
  · exact Stream.isSmooth_of_mem_pieces smooth new

theorem Expects.isQuiet
    (expects : client.Expects number tag words reply)
    (atRest : IsAtRest client.link.stream) :
    client.IsQuiet := by
  rw [IsQuiet, expects.reading]
  refine ⟨expects.isOpen, ?_⟩
  rw [Stream.takeArrived_of_nil atRest.smooth atRest.nothing, atRest.connected]
  rfl

/-- Once its stream is at rest, the reader does nothing more. -/
theorem Reads.pump
    (reads : Reads number tag words reply stream sentences ending after)
    (atRest : IsAtRest stream)
    (fuel : Nat) :
    Reads number tag words reply stream sentences ending (pump fuel after) := by
  have keeps (request : Request) (away : after.IsOutOfReach number request) :
      (Client.pump fuel after).IsOutOfReach number request :=
    (lasting_isOutOfReach number request).toStable.upholds.pump fuel away
  cases reads with
  | answered sentences_eq complete hasAnswer =>
      exact .answered sentences_eq complete (hasAnswer.keeps keeps)
  | broken nonterminal hasAnswer => exact .broken nonterminal (hasAnswer.keeps keeps)
  | expecting nonterminal expects decoder_eq stream_eq =>
      rw [pump_of_isQuiet (expects.isQuiet (stream_eq ▸ atRest))]
      exact .expecting nonterminal expects decoder_eq stream_eq

/-- The reader of an expected reply takes what has arrived. -/
theorem Expects.settle_eq (expects : client.Expects number tag words reply) :
    settle client = Client.pump (client.link.stream.extent + 1) client := by
  rw [settle, resume, expects.reading]

/-- The reader reads what has arrived for an expected reply. -/
theorem Expects.reads_settle
    {contents : List (List Text)}
    (expects : client.Expects number tag words reply)
    (incomplete : client.link.decoder.next = .ok none)
    (smooth : ∀ chunk ∈ client.link.stream.unread, chunk.IsSmooth)
    (connected : client.link.stream.hungUp = false)
    (drains : Wire.Decoder.Drains client.arrived contents ending)
    (belong : ∀ sentence ∈ contents.map Sentence.ofTexts, BelongsTo tag sentence)
    (notAboutValue : ∀ error, ending = .error error → error.kind.isAboutValue = false) :
    ∃ stream, IsAtRest stream ∧
      Reads number tag words reply stream (contents.map Sentence.ofTexts) ending
        (settle client) := by
  rw [expects.settle_eq, Client.pump]
  simp only [expects.reading, expects.isOpen]
  by_cases nothing : client.link.stream.unread.flatMap Chunk.bytes = []
  · rw [Stream.takeArrived_of_nil smooth nothing, connected]
    rw [arrived, nothing, Wire.Decoder.feed_nil] at drains
    cases (Wire.Decoder.drain_of_next_eq_none incomplete).symm.trans
      (Wire.Decoder.drain_eq_iff.mpr drains)
    exact ⟨client.link.stream, ⟨smooth, nothing, connected⟩,
      .expecting (List.forall_mem_nil _) expects rfl rfl⟩
  · rw [Stream.takeArrived_of_bytes smooth nothing]
    have taken := expects.withStream { client.link.stream with unread := [] }
    have atRest := isAtRest_taken connected
    have consumed := (taken.reads_consume belong notAboutValue).pump atRest
      client.link.stream.extent
    refine ⟨_, atRest, ?_⟩
    have drained := Wire.Decoder.drain_eq_iff.mpr drains
    rw [arrived] at drained
    simp only [consumeFrom, drained]
    exact consumed

/-- The client after a chunk has arrived. -/
def arriving
    (chunk : Chunk)
    (client : Client) : Client :=
  client.modifyLink fun link => { link with stream := link.stream.arrive [chunk] }

/-- The reader reads a chunk that arrives while it waits for more. -/
theorem Expects.reads_arriving
    {chunk : Chunk}
    {contents : List (List Text)}
    (expects : client.Expects number tag words reply)
    (incomplete : client.link.decoder.next = .ok none)
    (atRest : IsAtRest client.link.stream)
    (smooth : chunk.IsSmooth)
    (drains : Wire.Decoder.Drains (client.link.decoder.feed chunk.bytes) contents ending)
    (belong : ∀ sentence ∈ contents.map Sentence.ofTexts, BelongsTo tag sentence)
    (notAboutValue : ∀ error, ending = .error error → error.kind.isAboutValue = false) :
    ∃ stream, IsAtRest stream ∧
      Reads number tag words reply stream (contents.map Sentence.ofTexts) ending
        (settle (client.arriving chunk)) := by
  have expectsNext : (client.arriving chunk).Expects number tag words reply :=
    expects.withStream (client.link.stream.arrive [chunk])
  have arrived_eq : (client.arriving chunk).arrived = client.link.decoder.feed chunk.bytes :=
    congrArg (client.link.decoder.feed ·) (atRest.bytes_arrive chunk)
  exact expectsNext.reads_settle incomplete (atRest.smooth_arrive smooth) atRest.connected
    (arrived_eq ▸ drains) belong notAboutValue

/-- What is read after sentences that did not complete the reply. -/
theorem Reads.prepend
    {earlier : List Sentence}
    (reads :
      Reads number tag words (earlier.foldl Reply.process reply) stream sentences ending after)
    (nonterminal : ∀ sentence ∈ earlier, sentence.isTerminal = false) :
    Reads number tag words reply stream (earlier ++ sentences) ending after := by
  induction earlier generalizing reply with
  | nil => exact reads
  | cons sentence earlier inductionHypothesis =>
      obtain ⟨goesOn, goesOnLater⟩ := List.forall_mem_cons.mp nonterminal
      exact (inductionHypothesis reads goesOnLater).cons goesOn

/-- The reader reads the chunks that arrive one after the other. -/
theorem Reads.receive
    {chunks : List Chunk}
    {earlier contents : List (List Text)}
    {last : Wire.Decoder.Ending}
    (reads : Reads number tag words reply stream (earlier.map Sentence.ofTexts) last client)
    (atRest : IsAtRest stream)
    (smooth : ∀ chunk ∈ chunks, chunk.IsSmooth)
    (proceeds :
      Wire.Decoder.Proceeds (chunks.flatMap Chunk.bytes) earlier last contents ending)
    (belong : ∀ sentence ∈ contents.map Sentence.ofTexts, BelongsTo tag sentence)
    (notAboutValue : ∀ error, ending = .error error → error.kind.isAboutValue = false) :
    ∃ stream, IsAtRest stream ∧
      Reads number tag words reply stream (contents.map Sentence.ofTexts) ending
        (client.receive chunks).2 := by
  induction chunks generalizing client stream earlier last with
  | nil =>
      refine ⟨stream, atRest, ?_⟩
      cases proceeds with
      | failed error => exact reads
      | resumed incomplete drains =>
          rw [List.flatMap_nil, Wire.Decoder.feed_nil] at drains
          cases (Wire.Decoder.drain_of_next_eq_none incomplete).symm.trans
            (Wire.Decoder.drain_eq_iff.mpr drains)
          rw [List.append_nil]
          exact reads
  | cons chunk later inductionHypothesis =>
      have keeps (request : Request) (away : client.IsOutOfReach number request) :
          (client.receive (chunk :: later)).2.IsOutOfReach number request :=
        (lasting_isOutOfReach number request).settles.receive _ away
      cases reads with
      | answered sentences_eq complete hasAnswer =>
          obtain ⟨rest, rfl⟩ := proceeds.exists_append
          rw [List.map_append, sentences_eq, List.append_assoc]
          exact ⟨stream, atRest, .answered rfl complete (hasAnswer.keeps keeps)⟩
      | broken nonterminal hasAnswer =>
          cases proceeds with
          | failed error => exact ⟨stream, atRest, .broken nonterminal (hasAnswer.keeps keeps)⟩
      | expecting nonterminal expects decoder_eq stream_eq =>
          cases proceeds with
          | @resumed _ rest _ incomplete drains =>
              subst decoder_eq stream_eq
              obtain ⟨first, others⟩ := List.forall_mem_cons.mp smooth
              rw [List.map_append] at belong
              obtain ⟨-, belongRest⟩ := List.forall_mem_append.mp belong
              rw [List.flatMap_cons] at drains
              obtain ⟨next, nextLast, nextDrains, nextProceeds⟩ := drains.exists_proceeds
              have nextNotAboutValue (error : Error) (same : nextLast = .error error) :
                  error.kind.isAboutValue = false := by
                subst same
                cases nextProceeds
                exact notAboutValue error rfl
              obtain ⟨further, rfl⟩ := nextProceeds.exists_append
              rw [List.map_append] at belongRest
              obtain ⟨belongNext, -⟩ := List.forall_mem_append.mp belongRest
              obtain ⟨stream, atRestNext, readsNext⟩ :=
                expects.reads_arriving incomplete atRest first nextDrains belongNext
                  nextNotAboutValue
              have receive_eq : (client.receive (chunk :: later)).2 =
                  ((settle (client.arriving chunk)).receive later).2 := by
                rw [Client.receive, if_neg (by simp [expects.isOpen])]
                rfl
              have readsWhole := readsNext.prepend nonterminal
              rw [← List.map_append] at readsWhole
              rw [receive_eq]
              exact inductionHypothesis readsWhole atRestNext others
                (nextProceeds.prepend earlier)

/-- Once the device hangs up, the end of the stream is the answer. -/
theorem Expects.hangUp
    (expects : client.Expects number tag words reply)
    (atRest : IsAtRest client.link.stream) :
    HasAnswer number (.raised (Stream.endError client.link.decoder)) client.hangUp := by
  have vanished : Expects number tag words reply (client.modifyLink fun link =>
      { link with stream := { link.stream with hungUp := true } }) :=
    expects.withStream { client.link.stream with hungUp := true }
  have taken : ({ client.link.stream with hungUp := true } : Stream).takeArrived =
      (.ended, { client.link.stream with hungUp := true, unread := [] }) :=
    Stream.takeArrived_of_nil atRest.smooth atRest.nothing
  rw [Client.hangUp, expects.asynchronous, expects.isOpen]
  simp only [Bool.not_false, Bool.and_true, if_true]
  rw [settle_of_ended vanished.reading vanished.isOpen (congrArg Prod.fst taken)]
  exact vanished.endReader _

/-- Whoever waits for an expected reply gets its answer once the device has hung up. -/
theorem Reads.hangUp
    (reads : Reads number tag words reply stream sentences ending client)
    (atRest : IsAtRest stream) :
    HasAnswer number (answerOf reply ending sentences) client.hangUp := by
  have keeps (request : Request) (away : client.IsOutOfReach number request) :
      client.hangUp.IsOutOfReach number request :=
    (lasting_isOutOfReach number request).settles.hangUp away
  cases reads with
  | answered sentences_eq complete hasAnswer =>
      rw [sentences_eq, answerOf_append complete]
      exact hasAnswer.keeps keeps
  | broken nonterminal hasAnswer =>
      rw [answerOf_of_nonterminal nonterminal]
      exact hasAnswer.keeps keeps
  | expecting nonterminal expects decoder_eq stream_eq =>
      rw [answerOf_of_nonterminal nonterminal, ← decoder_eq]
      exact expects.hangUp (stream_eq ▸ atRest)

/-! ## Commands -/

/-- An asynchronous client is attentive if it can take a command, and its reader has read all that
has arrived. -/
structure IsAttentive (client : Client) : Prop where
  isOpen : client.link.isClosed = false
  asynchronous : client.link.isAsynchronous = true
  reading : client.link.reader = .reading
  sound : client.IsSound
  working : client.dispatcher.failure = none
  free : client.lookup? client.nextTag = none
  incomplete : client.link.decoder.next = .ok none
  atRest : IsAtRest client.link.stream
  answers : ∀ answer ∈ client.link.stream.script, answer.IsSmooth
  isKnown : ∃ charset, Encoding.charset client.link.decoder.encoding = .ok charset

/-- All bytes that the reader gets for the next command, with those that arrive later. -/
def heard
    (later : List Chunk)
    (client : Client) : Wire.Decoder :=
  client.link.decoder.feed ((client.awaiting ++ later).flatMap Chunk.bytes)

/-- Bytes are an unfinished answer if no sentence in them is terminal, and none is malformed. -/
def IsUnfinished (decoder : Wire.Decoder) : Prop :=
  (∀ sentence ∈ sentencesIn decoder, sentence.isTerminal = false) ∧
    ∃ left, decoder.drain.2 = .ok left

theorem hungUp_send
    (data : Bytes)
    (stream : Stream) :
    (stream.send data).2.hungUp = stream.hungUp := by
  unfold Stream.send
  split <;> rfl

/-- A command of an attentive client is written, and its reply expected. -/
theorem IsAttentive.expects
    (attentive : client.IsAttentive)
    {contents : List Text}
    {data : Bytes}
    (encoded : Wire.encodeSentence client.link.decoder.encoding
      (client.tagged (contents.map .text)) = .ok data) :
    ∃ after : Client, submit close (contents.map .text) (.callbacks none none) client =
        (.ok client.dispatcher.requests.length, after) ∧
      after.Expects client.dispatcher.requests.length client.nextTag (contents.map .text) {} ∧
      after.link.decoder = client.link.decoder ∧
      after.link.stream.unread = client.awaiting ∧
      (∀ chunk ∈ after.link.stream.unread, chunk.IsSmooth) ∧
      after.link.stream.hungUp = false := by
  have smooth : client.link.stream.IsSmooth := ⟨attentive.atRest.smooth, attentive.answers⟩
  obtain ⟨stream, sent, afterSmooth, -⟩ := smooth.send data
  have shown : Word.maskedAll (client.tagged (contents.map .text)) =
      .ok ((contents ++ [Word.ofTag (.text client.nextTag)]).map Word.masked) := by
    rw [← Word.maskedAll_map_text, List.map_append]
    rfl
  have written : write close (client.tagged (contents.map .text))
      (client.enroll (contents.map .text) (.callbacks none none)) =
        (.ok (), (client.enroll (contents.map .text) (.callbacks none none)).sending
          ((contents ++ [Word.ofTag (.text client.nextTag)]).map Word.masked) stream) :=
    write_of_sent close encoded attentive.isOpen shown sent
  refine ⟨(client.enroll (contents.map .text) (.callbacks none none)).sending
      ((contents ++ [Word.ofTag (.text client.nextTag)]).map Word.masked) stream, ?_, ?_, rfl,
    unread_eq_awaiting sent, afterSmooth.unread, ?_⟩
  · rw [submit_of_free close _ _ attentive.working attentive.free, written]
  · have sound := steady_isSound.enroll (contents.map .text) (.callbacks none none)
      attentive.working attentive.free attentive.sound
    exact ⟨attentive.isOpen, attentive.asynchronous, attentive.reading,
      ⟨sound.distinct, sound.owned⟩, request?_enlist_self _ _ client,
      Assoc.get?_set_self _ _ _⟩
  · have hungUp_eq := hungUp_send data client.link.stream
    rw [sent, attentive.atRest.connected] at hungUp_eq
    exact hungUp_eq

/-- Whoever waits for the reply to a command gets its answer: at once unless what has arrived for it
is unfinished, and once the device has hung up in any case. -/
theorem IsAttentive.hasAnswer
    (attentive : client.IsAttentive)
    {texts : List Text}
    {data : Bytes}
    (encoded : Wire.encodeSentence client.link.decoder.encoding
      (client.tagged (texts.map .text)) = .ok data)
    {chunks : List Chunk}
    (smooth : ∀ chunk ∈ chunks, chunk.IsSmooth)
    {contents : List (List Text)}
    (drains : Wire.Decoder.Drains (client.heard chunks) contents ending)
    (belong : ∀ sentence ∈ contents.map Sentence.ofTexts, BelongsTo client.nextTag sentence) :
    ∃ number after, client.runAsync (texts.map .text) none none = (.ok number, after) ∧
      HasAnswer number (answerOf {} ending (contents.map Sentence.ofTexts))
        (after.receive chunks).2.hangUp ∧
      (HasAnswer number (answerOf {} ending (contents.map Sentence.ofTexts)) after ∨
        after.await number = .waiting ∧ IsUnfinished (client.heard [])) := by
  obtain ⟨charset, isKnown⟩ := attentive.isKnown
  obtain ⟨written, submitted, expects, decoder_eq, unread_eq, unreadSmooth, connected⟩ :=
    attentive.expects encoded
  have notAboutValue := drains.isAboutValue_eq_false isKnown
  rw [heard, List.flatMap_append] at drains
  obtain ⟨earlier, last, arrivedDrains, proceeds⟩ := drains.exists_proceeds
  have arrived_eq : written.arrived =
      client.link.decoder.feed (client.awaiting.flatMap Chunk.bytes) := by
    rw [arrived, decoder_eq, unread_eq]
  have belongEarlier : ∀ sentence ∈ earlier.map Sentence.ofTexts,
      BelongsTo client.nextTag sentence := by
    obtain ⟨later, rfl⟩ := proceeds.exists_append
    rw [List.map_append] at belong
    exact (List.forall_mem_append.mp belong).1
  obtain ⟨stream, atRest, reads⟩ := expects.reads_settle (decoder_eq ▸ attentive.incomplete)
    unreadSmooth connected (arrived_eq ▸ arrivedDrains) belongEarlier
    (arrivedDrains.isAboutValue_eq_false isKnown)
  obtain ⟨finalStream, finalAtRest, finalReads⟩ :=
    reads.receive atRest smooth proceeds belong notAboutValue
  refine ⟨_, settle written, ?_, finalReads.hangUp finalAtRest, ?_⟩
  · rw [runAsync, start_of_isAsynchronous _ _ attentive.asynchronous, submitted]
  · cases reads with
    | answered sentences_eq complete hasAnswer =>
        obtain ⟨later, rfl⟩ := proceeds.exists_append
        rw [List.map_append, sentences_eq, List.append_assoc, answerOf_append complete]
        exact .inl hasAnswer
    | broken nonterminal hasAnswer =>
        cases proceeds with
        | failed error =>
            rw [answerOf_of_nonterminal nonterminal]
            exact .inl hasAnswer
    | expecting nonterminal expects =>
        refine .inr ⟨expects.await_eq, ?_⟩
        rw [IsUnfinished, heard, List.append_nil, Wire.Decoder.sentencesIn_of_drains arrivedDrains,
          Wire.Decoder.drain_eq_iff.mpr arrivedDrains]
        exact ⟨nonterminal, _, rfl⟩

end Client
end RouterApi
