import RouterApi.Proofs.Client.Tracking

/-!
# Delivery of complete sentences

The background reader dispatches the complete sentences of what synchronous reads have left and of
all bytes that follow, in order, up to the first fatal sentence that is heeded or the first
malformed prefix. What it ends with, and what becomes of the requests, does not depend on how the
bytes arrive.
-/

namespace RouterApi

/-- Only a fatal sentence is raised, as the error that it is. -/
theorem Session.eq_of_dispatch_eq_raised
    {Λ : Type}
    {host : Host Λ}
    {session after : Session Λ}
    {sentence : Sentence}
    {error : Error}
    (raised : session.dispatch host sentence = (.raised error, after)) :
    error = .reported (.fatal sentence) none := by
  cases tagged : sentence.tag with
  | none =>
      simp only [Session.dispatch, tagged] at raised
      split at raised
      · cases raised
      · cases raised
        rfl
      · cases raised
  | some tag =>
      cases found : session.lookup? tag with
      | none =>
          rw [dispatch_of_lookup?_eq_none host tagged found] at raised
          cases raised
      | some number =>
          rw [dispatch_of_lookup?_eq_some host tagged found] at raised
          by_cases data : sentence.control = .data
          · rw [feed_of_data host data] at raised
            split at raised
            · cases raised
            · cases raised
            · cases raised
          · rw [feed_of_ne_data host data] at raised
            split at raised
            · cases raised
              rfl
            · cases raised

namespace Client

variable {client : Client} {decoder : Wire.Decoder} {passed : List (List Text)} {exit : Error}
  {final : Client}

/-- Dispatching sentences in order, none of which is raised. -/
inductive Passes : Client → List (List Text) → Client → Prop
  | nil (client : Client) : Passes client [] client
  | cons {client next after : Client} {words : List Text} {later : List (List Text)}
      (dispatched : (client.noting (.ofTexts words)).dispatch readerHost (.ofTexts words) =
        (.handled, next))
      (passes : Passes next later after) :
      Passes client (words :: later) after

/-- What the reader passes to be dispatched of the bytes of a decoder, what it ends with, and the
client at that time. Either the last sentence is fatal and raised; or all complete sentences have
been dispatched before a malformed prefix, or before the stream ended inside or between sentences.
In an encoding that is not known no text can be read either. -/
inductive HandsOver (client : Client) (whole : Wire.Decoder) :
    List (List Text) → Error → Client → Prop
  | fatal {passed : List (List Text)} {words : List Text} {left : Wire.Decoder}
      {before after : Client}
      (start : whole.StartsWith (passed ++ [words]) left)
      (passes : Passes client passed before)
      (raised : (before.noting (.ofTexts words)).dispatch readerHost (.ofTexts words) =
        (.raised (.reported (.fatal (.ofTexts words)) none), after)) :
      HandsOver client whole (passed ++ [words]) (.reported (.fatal (.ofTexts words)) none) after
  | malformed {passed : List (List Text)} {left : Wire.Decoder} {byte : UInt8} {after : Client}
      (start : whole.StartsWith passed left)
      (malformed : left.next = .error (.framing (.reservedByte byte)))
      (passes : Passes client passed after) :
      HandsOver client whole passed (.framing (.reservedByte byte)) after
  | inside {passed : List (List Text)} {left : Wire.Decoder} {after : Client}
      (start : whole.StartsWith passed left)
      (incomplete : left.next = .ok none)
      (unfinished : left.buffer ≠ [])
      (passes : Passes client passed after) :
      HandsOver client whole passed (.framing .endedInside) after
  | between {passed : List (List Text)} {left : Wire.Decoder} {after : Client}
      (start : whole.StartsWith passed left)
      (nothing : left.buffer = [])
      (passes : Passes client passed after) :
      HandsOver client whole passed (.closed .byDevice) after
  | undecodable {passed : List (List Text)} {left : Wire.Decoder} {error : Error} {after : Client}
      (unknown : ∀ charset, Encoding.charset whole.encoding ≠ .ok charset)
      (start : whole.StartsWith passed left)
      (failed : left.next = .error error)
      (passes : Passes client passed after) :
      HandsOver client whole passed (decoderEnd error client) after

theorem HandsOver.cons
    {rest : Wire.Decoder}
    {words : List Text}
    {next after : Client}
    (found : decoder.next = .ok (some (words, rest)))
    (dispatched : (client.noting (.ofTexts words)).dispatch readerHost (.ofTexts words) =
      (.handled, next))
    (link_eq : next.link = client.link)
    (handsOver : HandsOver next rest passed exit after) :
    HandsOver client decoder (words :: passed) exit after := by
  cases handsOver with
  | fatal start passes raised =>
      exact .fatal (start.cons found) (.cons dispatched passes) raised
  | malformed start malformed passes =>
      exact .malformed (start.cons found) malformed (.cons dispatched passes)
  | inside start incomplete unfinished passes =>
      exact .inside (start.cons found) incomplete unfinished (.cons dispatched passes)
  | between start nothing passes =>
      exact .between (start.cons found) nothing (.cons dispatched passes)
  | @undecodable _ _ error _ unknown start failed passes =>
      rw [Wire.Decoder.encoding_next found] at unknown
      have same : decoderEnd error next = decoderEnd error client := by
        simp only [decoderEnd, link_eq]
      rw [same]
      exact .undecodable unknown (start.cons found) failed (.cons dispatched passes)

/-- What the reader works through is what it hands over. -/
theorem Works.exists_handsOver
    (works : Works [] decoder client passed exit final)
    (prompt : client.IsPrompt) :
    ∃ after, HandsOver client decoder passed exit after ∧ final = endReader exit after := by
  generalize turns_eq : [] = turns at works
  induction works with
  | @handled turns decoder rest client next words passed exit final found dispatched later
      inductionHypothesis =>
      have promptNoted := IsPrompt.noting prompt (.ofTexts words)
      have promptNext := promptNoted.dispatch readerHost (.ofTexts words)
      have link_eq := promptNoted.link_dispatch readerHost (.ofTexts words)
      rw [dispatched] at promptNext link_eq
      obtain ⟨after, handsOver, final_eq⟩ := inductionHypothesis promptNext turns_eq
      exact ⟨after, handsOver.cons found dispatched link_eq, final_eq⟩
  | @raised turns decoder rest client after words error found dispatched =>
      cases Session.eq_of_dispatch_eq_raised dispatched
      have start := (Wire.Decoder.startsWith_nil rest).cons found
      exact ⟨after, .fatal start (.nil client) dispatched, rfl⟩
  | @failed turns decoder client error failed =>
      have start := Wire.Decoder.startsWith_nil decoder
      refine ⟨client, ?_, rfl⟩
      by_cases isKnown : ∃ charset, Encoding.charset decoder.encoding = .ok charset
      · obtain ⟨charset, isKnown⟩ := isKnown
        obtain ⟨byte, rfl⟩ := Wire.Decoder.next_eq_error isKnown failed
        exact .malformed start failed (.nil client)
      · exact .undecodable (not_exists.mp isKnown) start failed (.nil client)
  | received => cases turns_eq
  | @ended decoder client incomplete =>
      have start := Wire.Decoder.startsWith_nil decoder
      refine ⟨client, ?_, rfl⟩
      by_cases nothing : decoder.buffer = []
      · have error_eq : Stream.endError decoder = .closed .byDevice := by
          simp [Stream.endError, Wire.Decoder.isPending, nothing]
        rw [error_eq]
        exact .between start nothing (.nil client)
      · have error_eq : Stream.endError decoder = .framing .endedInside := by
          simp [Stream.endError, Wire.Decoder.isPending, nothing]
        rw [error_eq]
        exact .inside start incomplete nothing (.nil client)

/-- The client after it has been switched to asynchronous operation, chunks have arrived, and the
device has hung up. -/
def listening (chunks : List Bytes) (client : Client) : Client :=
  (client.switch.2.receive (chunks.map .data)).2.hangUp

/-- What the reader delivers, what it ends with, and what becomes of the client only depends on the
bytes that synchronous reads have left and those that follow: it works through them in any turns in
the same way. The running reader comes to the same requests, calls and end, in whatever chunks the
bytes arrive. -/
theorem delivers_of_isPrompt
    (isOpen : client.link.isClosed = false)
    (synchronous : client.link.isAsynchronous = false)
    (atRest : IsAtRest client.link.stream)
    (prompt : client.IsPrompt)
    (bytes : Bytes) :
    ∃ passed exit after,
      HandsOver client (client.link.decoder.feed bytes) passed exit after ∧
      (∀ turns, turns.flatMap Turn.bytes = bytes → ∀ otherPassed otherExit final,
        Works turns client.link.decoder client otherPassed otherExit final ↔
          otherPassed = passed ∧ otherExit = exit ∧ final = endReader exit after) ∧
      ∀ chunks : List Bytes, chunks.flatten = bytes →
        client.switch.1 = .ok () ∧
        (client.listening chunks).join = some exit ∧
        (client.listening chunks).dispatcher = (endReader exit after).dispatcher ∧
        (client.listening chunks).journal.calls = (endReader exit after).journal.calls := by
  obtain ⟨passed, exit, final, works⟩ :=
    exists_works prompt (client.link.decoder.feed bytes)
  obtain ⟨after, handsOver, rfl⟩ := works.exists_handsOver prompt
  refine ⟨passed, exit, after, handsOver, ?_, ?_⟩
  · intro turns bytes_eq otherPassed otherExit final
    rw [works_iff_gathered, bytes_eq]
    constructor
    · exact works.unique
    · rintro ⟨rfl, rfl, rfl⟩
      exact works
  · intro chunks bytes_eq
    have whole : Works [] (client.link.decoder.feed (chunks.flatten ++ [])) client passed exit
        (endReader exit after) := by
      rwa [List.append_nil, bytes_eq]
    obtain ⟨switched, tracks⟩ := tracks_switch isOpen synchronous atRest prompt whole
    have isOver := tracks.receive.hangUp
    refine ⟨switched, ?_, ?_, ?_⟩
    · rw [join, listening, isOver.ended]
    · exact congrArg (fun session : Session Unit => session.dispatcher) isOver.unmounted_eq
    · exact congrArg (fun session : Session Unit => session.journal.calls) isOver.unmounted_eq

/-- A connection with two registered requests, one whose callback fails and one that is only
waited for, after synchronous reads that have left the beginning of a sentence. -/
def midSentence : Client :=
  { receiving [] with
    dispatcher := {
      minted := 2
      requests := [
        { tag := literal "1", words := [.text (literal "/x")],
          handler := .callbacks (some (.raise .emptyWord)) (some .observe) },
        { tag := literal "2", words := [.text (literal "/y")], handler := .callbacks none none }]
      pending := [(literal "1", 0), (literal "2", 1)] }
    link := { (receiving []).link with
      decoder :=
        { encoding := .text Charset.utf8.commonName, buffer := [3, 33, 114, 101, 6, 46] } } }

theorem isPrompt_midSentence : midSentence.IsPrompt := by
  intro number member request known
  rcases List.mem_pair.mp member with rfl | rfl
  · cases known
    exact ⟨fun reaction given => by cases given; trivial,
      fun reaction given => by cases given; trivial⟩
  · cases known
    exact ⟨nofun, nofun⟩

/-- The rest of that sentence, which has the first tag, a sentence of an unknown tag, a fatal
sentence, and one that is never dispatched. -/
def farewell : Bytes := [
  116, 97, 103, 61, 49, 4, 61, 97, 61, 98, 0,
  3, 33, 114, 101, 6, 46, 116, 97, 103, 61, 57, 0,
  6, 33, 102, 97, 116, 97, 108, 3, 98, 121, 101, 0,
  5, 33, 100, 111, 110, 101, 6, 46, 116, 97, 103, 61, 50, 0]

/-- However they arrive, the reader ends with the fatal sentence. -/
theorem delivers_farewell :
    midSentence.link.isClosed = false ∧
    midSentence.link.isAsynchronous = false ∧
    IsAtRest midSentence.link.stream ∧
    midSentence.IsPrompt ∧
    ∃ passed exit after,
      exit = .reported (.fatal (.ofTexts [literal "!fatal", literal "bye"])) none ∧
      HandsOver midSentence (midSentence.link.decoder.feed farewell) passed exit after ∧
      (∀ turns, turns.flatMap Turn.bytes = farewell → ∀ otherPassed otherExit final,
        Works turns midSentence.link.decoder midSentence otherPassed otherExit final ↔
          otherPassed = passed ∧ otherExit = exit ∧ final = endReader exit after) ∧
      ∀ chunks : List Bytes, chunks.flatten = farewell →
        midSentence.switch.1 = .ok () ∧
        (midSentence.listening chunks).join = some exit ∧
        (midSentence.listening chunks).dispatcher = (endReader exit after).dispatcher ∧
        (midSentence.listening chunks).journal.calls = (endReader exit after).journal.calls := by
  have atRest : IsAtRest midSentence.link.stream := ⟨List.forall_mem_nil _, rfl, rfl⟩
  obtain ⟨passed, exit, after, handsOver, works, running⟩ :=
    delivers_of_isPrompt rfl rfl atRest isPrompt_midSentence farewell
  have joined : (midSentence.listening [farewell]).join =
      some (.reported (.fatal (.ofTexts [literal "!fatal", literal "bye"])) none) := by
    decide +kernel
  have exit_eq := (running [farewell] (by simp)).2.1
  rw [joined] at exit_eq
  exact ⟨rfl, rfl, atRest, isPrompt_midSentence, passed, exit, after,
    (Option.some.inj exit_eq).symm, handsOver, works, running⟩

end Client
end RouterApi
