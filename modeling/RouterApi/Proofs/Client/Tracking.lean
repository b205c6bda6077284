import RouterApi.Proofs.Client.Expecting
import RouterApi.Proofs.Client.Turns

/-!
# What the running reader comes to

The reader of a running client takes whatever has arrived at once, and waits for more. While the
outstanding requests are prompt it comes to what it comes to turn by turn: the same requests, the
same calls of callbacks, and the same end.
-/

namespace RouterApi
namespace Client

variable {client twin final : Client} {error exit : Error}

/-! ## The end of the reader -/

/-- Closing a connection that has failed leaves the requests and the calls as they are. -/
theorem unmounted_shutDown
    {failure : Error}
    (failed : client.HasFailed failure) :
    client.shutDown.unmounted = client.unmounted := by
  unfold shutDown
  split
  · rfl
  · have empty : (closing client).dispatcher.pending = [] := failed.2
    have kept : (closing client).dispatcher.failure.or (some (.closed .byCaller)) =
        (closing client).dispatcher.failure := by
      show client.dispatcher.failure.or _ = client.dispatcher.failure
      rw [failed.1]
      rfl
    show (Session.failAll id _ (closing client)).unmounted = (closing client).unmounted
    rw [Session.failAll, empty, kept]
    simp only [Session.failEach, ← empty]

/-- What the end of the reader makes of the requests and the calls. -/
theorem unmounted_endReader
    (prompt : client.IsPrompt)
    (error : Error) :
    (endReader error client).unmounted = (client.unmounted.failAll id error).unmounted := by
  obtain ⟨level, message, ended⟩ := endReader_eq error client
  have leaving_eq : (client.leaving error).unmounted = client.unmounted := by
    unfold leaving
    split <;> rfl
  have failed := Session.hasFailed_failAll reaches_shutDown error (client.leaving error)
  rw [ended, unmounted_shutDown (by exact failed), logAbout, Session.unmounted_log,
    (prompt.congr leaving_eq).unmounted_failAll, leaving_eq]

/-! ## Following the reader -/

/-- The reader of a client is over if it has ended with an error, and the requests and calls are
those of another client. -/
structure IsOver
    (exit : Error)
    (final client : Client) : Prop where
  isClosed : client.link.isClosed = true
  ended : client.link.reader = .ended exit
  unmounted_eq : client.unmounted = final.unmounted

/-- A client with a stream at rest can work like a twin, which differs from it in nothing but the
connection and the log. -/
structure IsLike
    (twin client : Client) : Prop where
  isOpen : client.link.isClosed = false
  asynchronous : client.link.isAsynchronous = true
  atRest : IsAtRest client.link.stream
  prompt : client.IsPrompt
  twinIsOpen : twin.link.isClosed = false
  unmounted_eq : twin.unmounted = client.unmounted

/-- The reader of a client awaits bytes if it waits for more, and a twin works to some end if these
are all that follow. -/
structure Awaits
    (more : Bytes)
    (exit : Error)
    (final client : Client) : Prop where
  reading : client.link.reader = .reading
  incomplete : client.link.decoder.next = .ok none
  works : ∃ twin passed, IsLike twin client ∧
    Works [] (client.link.decoder.feed more) twin passed exit final

/-- The reader of a client is over, or awaits bytes. -/
inductive Tracks
    (more : Bytes)
    (exit : Error)
    (final client : Client) : Prop
  | finished (isOver : IsOver exit final client)
  | awaiting (awaits : Awaits more exit final client)

variable {more : Bytes} {decoder : Wire.Decoder} {passed sentences : List (List Text)}
  {ending : Wire.Decoder.Ending}

theorem isOver_endReader
    (prompt : client.IsPrompt)
    (same : twin.unmounted = client.unmounted)
    (error : Error) :
    IsOver error (endReader error twin) (endReader error client) where
  isClosed := (isCutOff_endReader error client).isClosed
  ended := reader_endReader error client
  unmounted_eq := by
    rw [unmounted_endReader prompt, unmounted_endReader (prompt.congr same), same]

/-- Dispatching the sentences of a decoder. -/
theorem IsLike.tracks_consume
    (drains : Wire.Decoder.Drains decoder sentences ending)
    (alike : IsLike twin client)
    (works : Works [] (decoder.feed more) twin passed exit final) :
    Tracks more exit final (consume sentences ending client) := by
  induction drains generalizing client twin passed with
  | @malformed decoder error failed =>
      have failedWhole := Wire.Decoder.next_feed_of_error failed more
      obtain ⟨-, rfl, rfl⟩ := (works_iff_of_failed failedWhole).mp works
      have same : decoderEnd error client = decoderEnd error twin := by
        simp only [decoderEnd, alike.isOpen, alike.twinIsOpen]
      rw [consume, same]
      exact .finished (isOver_endReader alike.prompt alike.unmounted_eq _)
  | @exhausted decoder incomplete =>
      have alikeAfter : IsLike twin (consume [] (.ok decoder) client) :=
        ⟨alike.isOpen, alike.asynchronous, alike.atRest, alike.prompt, alike.twinIsOpen,
          alike.unmounted_eq⟩
      exact .awaiting ⟨rfl, incomplete, twin, passed, alikeAfter, works⟩
  | @sentence decoder rest words sentences ending found later inductionHypothesis =>
      have promptNoted := IsPrompt.noting alike.prompt (.ofTexts words)
      have promptAfter := promptNoted.dispatch readerHost (.ofTexts words)
      have link_eq := promptNoted.link_dispatch readerHost (.ofTexts words)
      have sameNoted : (twin.noting (.ofTexts words)).unmounted =
          (client.noting (.ofTexts words)).unmounted := alike.unmounted_eq
      have twinLink_eq := (promptNoted.congr sameNoted).link_dispatch readerHost (.ofTexts words)
      obtain ⟨outcome_eq, after_eq⟩ :=
        promptNoted.dispatch_congr sameNoted readerHost readerHost (.ofTexts words)
      cases result : Session.dispatch readerHost (.ofTexts words)
          (client.noting (.ofTexts words)) with
      | mk outcome after =>
          rw [result] at promptAfter link_eq outcome_eq after_eq
          rcases (works_iff_of_found (Wire.Decoder.next_feed_of_some found more)).mp works with
            ⟨twinAfter, rest, handled, worksLater, rfl⟩ | ⟨twinAfter, raised, rfl, rfl⟩
          · rw [handled] at outcome_eq after_eq twinLink_eq
            cases outcome_eq
            rw [consume_of_handled result]
            refine inductionHypothesis ?_ worksLater
            exact {
              isOpen := link_eq ▸ alike.isOpen
              asynchronous := link_eq ▸ alike.asynchronous
              atRest := link_eq ▸ alike.atRest
              prompt := promptAfter
              twinIsOpen := twinLink_eq ▸ alike.twinIsOpen
              unmounted_eq := after_eq }
          · rw [raised] at outcome_eq after_eq
            cases outcome_eq
            rw [consume_of_raised result]
            exact .finished (isOver_endReader promptAfter after_eq _)

theorem Awaits.isQuiet (awaits : Awaits more exit final client) : client.IsQuiet := by
  obtain ⟨twin, passed, alike, -⟩ := awaits.works
  rw [IsQuiet, awaits.reading]
  refine ⟨alike.isOpen, ?_⟩
  rw [Stream.takeArrived_of_nil alike.atRest.smooth alike.atRest.nothing, alike.atRest.connected]
  rfl

theorem Tracks.isQuiet (tracks : Tracks more exit final client) : client.IsQuiet := by
  cases tracks with
  | finished isOver => simp [IsQuiet, isOver.ended]
  | awaiting awaits => exact awaits.isQuiet

/-- The reader takes bytes that arrive while it awaits them. -/
theorem Awaits.arriving
    {bytes : Bytes}
    (awaits : Awaits (bytes ++ more) exit final client) :
    Tracks more exit final (settle (client.arriving (.data bytes))) := by
  obtain ⟨twin, passed, alike, works⟩ := awaits.works
  have smooth : ∀ piece ∈ (client.arriving (.data bytes)).link.stream.unread, piece.IsSmooth :=
    alike.atRest.smooth_arrive (show (Chunk.data bytes).IsSmooth from trivial)
  have arrived_eq : (client.arriving (.data bytes)).link.stream.unread.flatMap Chunk.bytes =
      bytes := alike.atRest.bytes_arrive (.data bytes)
  have connected : (client.arriving (.data bytes)).link.stream.hungUp = false :=
    alike.atRest.connected
  by_cases nothing : bytes = []
  · subst nothing
    have same : IsLike twin (client.arriving (.data [])) :=
      ⟨alike.isOpen, alike.asynchronous, ⟨smooth, arrived_eq, connected⟩, alike.prompt,
        alike.twinIsOpen, alike.unmounted_eq⟩
    have still : Awaits more exit final (client.arriving (.data [])) :=
      ⟨awaits.reading, awaits.incomplete, twin, passed, same, works⟩
    rw [settle_of_isQuiet still.isQuiet]
    exact .awaiting still
  · have reading : (client.arriving (.data bytes)).link.reader = .reading := awaits.reading
    have isOpen : (client.arriving (.data bytes)).link.isClosed = false := alike.isOpen
    have taken := Stream.takeArrived_of_bytes smooth (by rwa [arrived_eq])
    rw [arrived_eq] at taken
    have same : IsLike twin ((client.arriving (.data bytes)).modifyLink fun link =>
        { link with stream := { link.stream with unread := [] } }) :=
      ⟨alike.isOpen, alike.asynchronous, isAtRest_taken connected, alike.prompt,
        alike.twinIsOpen, alike.unmounted_eq⟩
    rw [Wire.Decoder.feed_append] at works
    have tracks := same.tracks_consume (Wire.Decoder.drains_drain _) works
    simp only [settle, resume, reading, pump, isOpen, taken]
    rw [pump_of_isQuiet (by exact tracks.isQuiet)]
    exact tracks

/-- The reader takes the chunks that arrive one after the other. -/
theorem Tracks.receive
    {chunks : List Bytes}
    (tracks : Tracks (chunks.flatten ++ more) exit final client) :
    Tracks more exit final (client.receive (chunks.map .data)).2 := by
  induction chunks generalizing client with
  | nil => exact tracks
  | cons bytes later inductionHypothesis =>
      rw [List.map_cons, Client.receive]
      cases tracks with
      | finished isOver =>
          rw [if_pos isOver.isClosed]
          exact .finished isOver
      | awaiting awaits =>
          obtain ⟨twin, passed, alike, -⟩ := awaits.works
          rw [if_neg (by simp [alike.isOpen])]
          rw [List.flatten_cons, List.append_assoc] at awaits
          exact inductionHypothesis awaits.arriving

/-- The client after the device has hung up. -/
def abandoned (client : Client) : Client :=
  client.modifyLink fun link => { link with stream := { link.stream with hungUp := true } }

/-- Once the device has hung up, the reader is over. -/
theorem Tracks.hangUp (tracks : Tracks [] exit final client) :
    IsOver exit final client.hangUp := by
  unfold Client.hangUp
  cases tracks with
  | finished isOver => simpa [isOver.isClosed] using isOver
  | awaiting awaits =>
      obtain ⟨twin, passed, alike, works⟩ := awaits.works
      rw [Wire.Decoder.feed_nil] at works
      obtain ⟨-, rfl, rfl⟩ := (works_nil_iff_of_incomplete awaits.incomplete).mp works
      rw [if_pos (by simp [alike.asynchronous, alike.isOpen])]
      have reading : client.abandoned.link.reader = .reading := awaits.reading
      have isOpen : client.abandoned.link.isClosed = false := alike.isOpen
      have prompt : client.abandoned.IsPrompt := alike.prompt
      have smooth : ∀ chunk ∈ client.abandoned.link.stream.unread, chunk.IsSmooth :=
        alike.atRest.smooth
      have ended : client.abandoned.link.stream.takeArrived.1 = .ended :=
        congrArg Prod.fst (Stream.takeArrived_of_nil smooth alike.atRest.nothing)
      have settled := settle_of_ended reading isOpen ended
      have isOver := isOver_endReader prompt alike.unmounted_eq
        (Stream.endError client.abandoned.link.decoder)
      rw [← settled] at isOver
      exact isOver

/-- Switching to asynchronous operation starts the reader with what synchronous reads have left. -/
theorem tracks_switch
    (isOpen : client.link.isClosed = false)
    (synchronous : client.link.isAsynchronous = false)
    (atRest : IsAtRest client.link.stream)
    (prompt : client.IsPrompt)
    (works : Works [] (client.link.decoder.feed more) client passed exit final) :
    client.switch.1 = .ok () ∧ Tracks more exit final client.switch.2 := by
  have alike : IsLike client
      (client.modifyLink ({ · with isAsynchronous := true, reader := .reading })) :=
    ⟨isOpen, rfl, atRest, prompt, isOpen, rfl⟩
  have tracks := alike.tracks_consume (Wire.Decoder.drains_drain client.link.decoder) works
  have settled := settle_of_isQuiet tracks.isQuiet
  have switch_eq : client.switch = (.ok (), logAbout .info .client
      (literal "switched to asynchronous mode") (consume client.link.decoder.drain.1
        client.link.decoder.drain.2
        (client.modifyLink ({ · with isAsynchronous := true, reader := .reading })))) := by
    rw [switch, if_neg (by simp [synchronous]), if_neg (by simp [isOpen])]
    simp only [consumeFrom]
    rw [← settled]
    rfl
  rw [switch_eq]
  refine ⟨rfl, ?_⟩
  generalize consume _ _ _ = after at tracks
  cases tracks with
  | finished isOver => exact .finished ⟨isOver.isClosed, isOver.ended, isOver.unmounted_eq⟩
  | awaiting awaits =>
      obtain ⟨twin, passed, alike, works⟩ := awaits.works
      have logged : IsLike twin (logAbout .info .client
          (literal "switched to asynchronous mode") after) :=
        ⟨alike.isOpen, alike.asynchronous, alike.atRest, alike.prompt, alike.twinIsOpen,
          alike.unmounted_eq⟩
      exact .awaiting ⟨awaits.reading, awaits.incomplete, twin, passed, logged, works⟩

end Client
end RouterApi
