import RouterApi.Proofs.Client.Offers
import RouterApi.Proofs.Client.Redaction
import RouterApi.Proofs.Masking

/-!
# Commands that look alike

Commands look alike if they are shown in the same way, and can both be encoded or neither of them.
Whatever alike clients are asked to do, with commands that look alike, they do with the same
results, and stay alike. In particular they leave the same log.
-/

namespace RouterApi
namespace Client

/-- Whether the words of a sentence can be encoded, and why not. -/
def encodable
    (encoding : Value)
    (words : List Word) : Except Error Unit :=
  (Wire.encodeSentence encoding words).map fun _ => ()

/-- Two commands look alike if they are shown alike, and can both be encoded or neither of them. -/
structure LookAlike
    (encoding : Value)
    (words others : List Word) : Prop where
  shown : Word.maskedAll words = Word.maskedAll others
  encodable : encodable encoding words = Client.encodable encoding others

theorem LookAlike.refl
    (encoding : Value)
    (words : List Word) :
    LookAlike encoding words words :=
  ⟨rfl, rfl⟩

variable
  {encoding : Value}
  {words others : List Word}
  {first second : Client}

theorem encodable_cons
    (encoding : Value)
    (word : Word)
    (rest : List Word) :
    encodable encoding (word :: rest) =
      if Wire.isEmpty word then .error .emptyWord
      else (Wire.encodeWord encoding word).bind fun _ => encodable encoding rest := by
  simp only [encodable, Wire.encodeSentence, Wire.encodeWords]
  cases Wire.isEmpty word with
  | true => rfl
  | false =>
      cases Wire.encodeWord encoding word with
      | error => rfl
      | ok bytes =>
          cases Wire.encodeWords encoding rest with
          | error | ok => rfl

theorem encodable_append
    (encoding : Value)
    (words later : List Word) :
    encodable encoding (words ++ later) =
      (encodable encoding words).bind fun _ => encodable encoding later := by
  induction words with
  | nil => rfl
  | cons word rest inductionHypothesis =>
      rw [List.cons_append, encodable_cons, encodable_cons, inductionHypothesis]
      split
      · rfl
      · cases Wire.encodeWord encoding word with
        | error | ok => rfl

/-- Commands that look alike still do when the same words follow. -/
theorem LookAlike.append
    (lookAlike : LookAlike encoding words others)
    (later : List Word) :
    LookAlike encoding (words ++ later) (others ++ later) where
  shown := by rw [Word.maskedAll_append, Word.maskedAll_append, lookAlike.shown]
  encodable := by rw [encodable_append, encodable_append, lookAlike.encodable]

theorem LookAlike.encodeSentence_error
    {error : Error}
    (lookAlike : LookAlike encoding words others)
    (failed : Wire.encodeSentence encoding words = .error error) :
    Wire.encodeSentence encoding others = .error error := by
  have same := lookAlike.encodable
  unfold Client.encodable at same
  rw [failed] at same
  cases encoded : Wire.encodeSentence encoding others with
  | ok data => simp [encoded, Except.map] at same
  | error other =>
      rw [encoded] at same
      cases same
      rfl

theorem LookAlike.encodeSentence_ok
    {data : Bytes}
    (lookAlike : LookAlike encoding words others)
    (encoded : Wire.encodeSentence encoding words = .ok data) :
    ∃ other, Wire.encodeSentence encoding others = .ok other := by
  cases result : Wire.encodeSentence encoding others with
  | ok other => exact ⟨other, rfl⟩
  | error error =>
      have same := lookAlike.encodable
      unfold Client.encodable at same
      simp [encoded, result, Except.map] at same

/-- Alike clients can send commands that look alike, or neither of them can. -/
theorem Alike.encodeSentence_ok
    {data : Bytes}
    (alike : Alike first second)
    (lookAlike : LookAlike first.link.decoder.encoding words others)
    (encoded : Wire.encodeSentence first.link.decoder.encoding words = .ok data) :
    ∃ other, Wire.encodeSentence second.link.decoder.encoding others = .ok other :=
  alike.decoder_eq ▸ lookAlike.encodeSentence_ok encoded

/-- Alike clients send data with the same result, whatever data they are. -/
theorem Alike.exists_send_eq
    {data : Bytes}
    {result : Except Text Unit}
    {stream : Stream}
    (alike : Alike first second)
    (sent : first.link.stream.send data = (result, stream))
    (other : Bytes) :
    ∃ after, second.link.stream.send other = (result, after) ∧ stream.redact = after.redact := by
  have same : Stream.redacted (first.link.stream.send data) =
      Stream.redacted (second.link.stream.send other) := by
    rw [Stream.redacted_send data data, Stream.redacted_send other data, alike.stream_eq]
  rw [sent] at same
  obtain ⟨result_eq, stream_eq⟩ := Prod.mk.inj same
  exact ⟨(second.link.stream.send other).2, Prod.ext result_eq.symm rfl, stream_eq⟩

/-- Writing commands that look alike are alike steps. -/
theorem Alike.write
    {close : Client → Client}
    (alike : Alike first second)
    (closes : ∀ {first second}, Alike first second → Alike (close first) (close second))
    (lookAlike : LookAlike first.link.decoder.encoding words others) :
    AlikeSteps (write close words first) (write close others second) := by
  have written := written_write close words first
  generalize Client.write close words first = step at written ⊢
  cases written with
  | @unencoded error encoded =>
      have failed := lookAlike.encodeSentence_error encoded
      rw [alike.decoder_eq] at failed
      have refused : Client.write close others second = (.error error, second) := by
        simp [Client.write, failed]
      rw [refused]
      exact alikeSteps_iff.mpr ⟨rfl, alike⟩
  | refused encoded isClosed =>
      obtain ⟨other, encodes⟩ := alike.encodeSentence_ok lookAlike encoded
      rw [alike.isClosed_eq] at isClosed
      have refused : Client.write close others second =
          (.error (.closed .alreadyClosed), second) := by
        simp [Client.write, encodes, isClosed]
      rw [refused]
      exact alikeSteps_iff.mpr ⟨rfl, alike⟩
  | @unshown data error encoded isOpen masked =>
      obtain ⟨other, encodes⟩ := alike.encodeSentence_ok lookAlike encoded
      rw [alike.isClosed_eq] at isOpen
      rw [lookAlike.shown] at masked
      have refused : Client.write close others second = (.error error, second) := by
        simp [Client.write, encodes, isOpen, masked]
      rw [refused]
      exact alikeSteps_iff.mpr ⟨rfl, alike⟩
  | sent encoded isOpen masked sent =>
      obtain ⟨other, encodes⟩ := alike.encodeSentence_ok lookAlike encoded
      obtain ⟨after, otherSent, stream_eq⟩ := alike.exists_send_eq sent other
      rw [alike.isClosed_eq] at isOpen
      rw [lookAlike.shown] at masked
      rw [write_of_sent close encodes isOpen masked otherSent]
      exact alikeSteps_iff.mpr ⟨rfl, (alike.log ..).withStream stream_eq⟩
  | failed encoded isOpen masked failed =>
      obtain ⟨other, encodes⟩ := alike.encodeSentence_ok lookAlike encoded
      obtain ⟨after, otherFailed, stream_eq⟩ := alike.exists_send_eq failed other
      rw [alike.isClosed_eq] at isOpen
      rw [lookAlike.shown] at masked
      rw [write_of_failed close encodes isOpen masked otherFailed]
      exact alikeSteps_iff.mpr ⟨rfl, closes ((alike.log ..).withStream stream_eq)⟩

/-! ## Submission -/

theorem redact_register
    (number : Nat)
    (dispatcher : Dispatcher) :
    (dispatcher.register number).map Dispatcher.redact = dispatcher.redact.register number := by
  have known : dispatcher.redact.request? number =
      (dispatcher.request? number).map Request.redact := List.getElem?_map
  unfold Dispatcher.register
  rw [known]
  have failure_eq : dispatcher.redact.failure = dispatcher.failure := rfl
  have pending_eq : dispatcher.redact.pending = dispatcher.pending := rfl
  rw [failure_eq, pending_eq]
  cases dispatcher.failure with
  | some failure => rfl
  | none =>
      cases dispatcher.request? number with
      | none => rfl
      | some request =>
          have tag_eq : request.redact.tag = request.tag := rfl
          simp only [Option.map_some, tag_eq]
          split
          · rfl
          · rfl

theorem redact_enlist
    (words : List Word)
    (handler : Handler)
    (client : Client) :
    Session.redact Connection.redact (client.enlist words handler) =
      enlist [] handler (Session.redact Connection.redact client) := by
  simp only [Session.redact, Dispatcher.redact, enlist, List.map_append]
  rfl

/-- Submitting commands that look alike are alike steps. -/
theorem Alike.submit
    {close : Client → Client}
    (alike : Alike first second)
    (closes : ∀ {first second}, Alike first second → Alike (close first) (close second))
    (lookAlike : LookAlike first.link.decoder.encoding words others)
    (handler : Handler) :
    AlikeSteps (submit close words handler first) (submit close others handler second) := by
  have enlisted : Alike (first.enlist words handler) (second.enlist others handler) := by
    unfold Alike
    rw [redact_enlist, redact_enlist, alike]
  have length_eq : first.dispatcher.requests.length = second.dispatcher.requests.length := by
    have same := congrArg (fun dispatcher => dispatcher.requests.length) alike.dispatcher_eq
    simpa [Dispatcher.redact] using same
  have nextTag_eq : first.nextTag = second.nextTag :=
    congrArg (fun minted => Text.ofNat (minted + 1)) alike.minted_eq
  have registered := redact_register first.dispatcher.requests.length
    (first.enlist words handler).dispatcher
  rw [enlisted.dispatcher_eq, ← redact_register] at registered
  have tagged : LookAlike first.link.decoder.encoding (first.tagged words)
      (second.tagged others) := by
    have appended := lookAlike.append [.text (Word.ofTag (.text first.nextTag))]
    unfold Client.tagged
    rwa [← nextTag_eq]
  rw [submit_eq, submit_eq, ← length_eq, ← nextTag_eq]
  generalize (first.enlist words handler).dispatcher.register first.dispatcher.requests.length =
    outcome at registered ⊢
  generalize (second.enlist others handler).dispatcher.register first.dispatcher.requests.length =
    other at registered ⊢
  cases outcome with
  | error error =>
      cases other with
      | ok => cases registered
      | error =>
          cases registered
          exact alikeSteps_iff.mpr ⟨rfl, enlisted⟩
  | ok dispatcher =>
      cases other with
      | error => cases registered
      | ok otherDispatcher =>
          have dispatcher_eq : dispatcher.redact = otherDispatcher.redact :=
            Except.ok.inj registered
          have written := (alike.withDispatcher dispatcher_eq).write closes tagged
          simp only
          obtain ⟨result, after, otherAfter, step_eq, other_eq, alikeAfter⟩ := written.exists_eq
          rw [step_eq, other_eq]
          cases result with
          | ok => exact alikeSteps_iff.mpr ⟨rfl, alikeAfter⟩
          | error error =>
              refine alikeSteps_iff.mpr ⟨rfl, ?_⟩
              split
              · exact alikeAfter.of_commutes (Session.remove first.nextTag) fun _ => rfl
              · exact alikeAfter

/-! ## The background reader -/

/-- The tag that a cancellation comes back with. -/
theorem Alike.receipt_eq
    (alike : Alike first second)
    (number : Nat) :
    (first.request? number).elim [] Request.tag =
      (second.request? number).elim [] Request.tag := by
  refine alike.eq_of_invariant (fun client => (client.request? number).elim [] Request.tag) ?_
  intro client
  simp only [Session.request?_redact]
  cases client.request? number with
  | none | some => rfl

theorem Alike.cancelByReader
    (alike : Alike first second)
    (tag : Text) :
    AlikeSteps (readerHost.cancel tag first) (readerHost.cancel tag second) := by
  have submitted := alike.submit Alike.shutDown (.refl _ (cancelCommand (.text tag)))
    (.callbacks none none)
  simp only [readerHost]
  obtain ⟨result, after, otherAfter, step_eq, other_eq, alikeAfter⟩ := submitted.exists_eq
  rw [step_eq, other_eq]
  cases result with
  | error => exact alikeSteps_iff.mpr ⟨rfl, alikeAfter⟩
  | ok number =>
      exact alikeSteps_iff.mpr ⟨congrArg Except.ok (alikeAfter.receipt_eq number), alikeAfter⟩

/-- The part of a redacted client in the delivery of sentences. -/
def redactedHost : Host Connection where
  cancel tag client := Session.redacted Connection.redact (readerHost.cancel tag client)
  close := shutDown
  giveUp? := readerHost.giveUp?

theorem mirrors_readerHost : Session.Mirrors Connection.redact readerHost redactedHost where
  cancel tag client := (alike_redact client).cancelByReader tag
  close := redact_shutDown
  giveUp link := by
    have same : link.redact.isClosed = link.isClosed := rfl
    simp only [redactedHost, readerHost, same]
    split
    · rfl
    · rfl

theorem Alike.dispatch
    (alike : Alike first second)
    (sentence : Sentence) :
    AlikeSteps (Session.dispatch readerHost sentence first)
      (Session.dispatch readerHost sentence second) := by
  unfold AlikeSteps
  rw [mirrors_readerHost.redacted_dispatch, mirrors_readerHost.redacted_dispatch, alike]

theorem Alike.deliver
    (alike : Alike first second)
    (number : Nat)
    (sentence : Sentence) :
    AlikeSteps (Session.deliver readerHost number sentence first)
      (Session.deliver readerHost number sentence second) := by
  unfold AlikeSteps
  rw [mirrors_readerHost.redacted_deliver, mirrors_readerHost.redacted_deliver, alike]

theorem Alike.consume
    (alike : Alike first second)
    (sentences : List (List Text))
    (ending : Wire.Decoder.Ending) :
    Alike (consume sentences ending first) (consume sentences ending second) := by
  induction sentences generalizing first second with
  | nil =>
      cases ending with
      | ok decoder =>
          exact alike.of_commutes (Session.modifyLink ({ · with decoder, reader := .reading }))
            fun _ => rfl
      | error error =>
          have same : decoderEnd error first = decoderEnd error second := by
            unfold decoderEnd
            rw [alike.isClosed_eq]
          simp only [Client.consume, same]
          exact alike.endReader _
  | cons words later inductionHypothesis =>
      have dispatched := (alike.log .debug .request
        (literal "<<< " ++ (Sentence.ofTexts words).summary)).dispatch (Sentence.ofTexts words)
      unfold Client.consume
      simp only
      obtain ⟨result, after, otherAfter, step_eq, other_eq, alikeAfter⟩ := dispatched.exists_eq
      rw [step_eq, other_eq]
      cases result with
      | handled => exact inductionHypothesis alikeAfter
      | raised error => exact alikeAfter.endReader error
      | stalled number =>
          let holdUp : Client → Client := Session.modifyLink
            ({ · with reader := .stalled number (Sentence.ofTexts words) later ending })
          exact alikeAfter.of_commutes holdUp fun _ => rfl

theorem Alike.consumeFrom
    (alike : Alike first second)
    (decoder : Wire.Decoder) :
    Alike (consumeFrom decoder first) (consumeFrom decoder second) :=
  alike.consume decoder.drain.1 decoder.drain.2

theorem Alike.resume (alike : Alike first second) : Alike (resume first) (resume second) := by
  unfold Client.resume
  rw [← alike.reader_eq]
  cases first.link.reader with
  | absent | reading | ended => exact alike
  | stalled number sentence later ending =>
      have delivered := alike.deliver number sentence
      simp only
      obtain ⟨result, after, otherAfter, step_eq, other_eq, alikeAfter⟩ := delivered.exists_eq
      rw [step_eq, other_eq]
      cases result with
      | stalled => exact alikeAfter
      | accepted | failed => exact alikeAfter.consume later ending

theorem Alike.pump
    (alike : Alike first second)
    (fuel : Nat) :
    Alike (pump fuel first) (pump fuel second) := by
  induction fuel generalizing first second with
  | zero => exact alike
  | succ fuel inductionHypothesis =>
      unfold Client.pump
      rw [← alike.reader_eq, ← alike.isClosed_eq, ← alike.decoder_eq]
      cases first.link.reader with
      | absent | stalled | ended => exact alike
      | reading =>
          have taken : Stream.redacted first.link.stream.takeArrived =
              Stream.redacted second.link.stream.takeArrived := by
            rw [Stream.redacted_takeArrived, Stream.redacted_takeArrived, alike.stream_eq]
          simp only
          split
          · exact alike.endReader _
          · generalize first.link.stream.takeArrived = step at taken ⊢
            generalize second.link.stream.takeArrived = other at taken ⊢
            obtain ⟨arrival, stream⟩ := step
            obtain ⟨otherArrival, otherStream⟩ := other
            obtain ⟨rfl, stream_eq⟩ := Prod.mk.inj taken
            cases arrival with
            | nothing => exact alike
            | ended => exact alike.endReader _
            | failure reason => exact (alike.withStream stream_eq).endReader _
            | data bytes =>
                exact inductionHypothesis ((alike.withStream stream_eq).consumeFrom _)

theorem Alike.settle (alike : Alike first second) : Alike (settle first) (settle second) := by
  have resumed := alike.resume
  have extent_eq : (Client.resume first).link.stream.extent =
      (Client.resume second).link.stream.extent :=
    congrArg (·.extent) resumed.stream_eq
  unfold Client.settle
  simp only [extent_eq]
  exact resumed.pump _

/-! ## Commands -/

theorem Alike.close (alike : Alike first second) : Alike first.close second.close := by
  unfold Client.close
  rw [← alike.isClosed_eq]
  split
  · exact alike
  · exact alike.shutDown.settle

theorem Alike.switch (alike : Alike first second) : AlikeSteps first.switch second.switch := by
  unfold Client.switch
  rw [← alike.isAsynchronous_eq, ← alike.isClosed_eq]
  split
  · exact alikeSteps_iff.mpr ⟨rfl, alike⟩
  · split
    · exact alikeSteps_iff.mpr ⟨rfl, alike⟩
    · have engaged := alike.of_commutes
        (Session.modifyLink ({ · with isAsynchronous := true, reader := .reading })) fun _ => rfl
      simp only
      generalize Session.modifyLink _ first = first at engaged ⊢
      generalize Session.modifyLink _ second = second at engaged ⊢
      rw [← engaged.decoder_eq]
      exact alikeSteps_iff.mpr ⟨rfl, (engaged.consumeFrom _).settle.logAbout ..⟩

/-- Switching to asynchronous operation keeps the encoding. -/
theorem encoding_switch (client : Client) :
    client.switch.2.link.decoder.encoding = client.link.decoder.encoding := by
  have endures := endures_hasEncoding client.link.decoder.encoding
  unfold Client.switch
  split
  · rfl
  · split
    · rfl
    · have engaged : Connection.HasEncoding client.link.decoder.encoding
          (client.modifyLink ({ · with isAsynchronous := true, reader := .reading })).link :=
        ⟨rfl, nofun⟩
      exact (endures.settle (endures.consumeFrom rfl engaged)).encoding_eq

/-- Issuing commands that look alike are alike steps. -/
theorem Alike.start
    (alike : Alike first second)
    (lookAlike : LookAlike first.link.decoder.encoding words others)
    (handler : Handler) :
    AlikeSteps (first.start words handler) (second.start others handler) := by
  have switched := alike.switch
  have encoding_eq := encoding_switch first
  unfold Client.start
  obtain ⟨result, after, otherAfter, step_eq, other_eq, alikeAfter⟩ := switched.exists_eq
  rw [step_eq, other_eq]
  rw [step_eq] at encoding_eq
  cases result with
  | error => exact alikeSteps_iff.mpr ⟨rfl, alikeAfter⟩
  | ok =>
      rw [← encoding_eq] at lookAlike
      have submitted := alikeAfter.submit Alike.close lookAlike handler
      simp only
      obtain ⟨result, after, otherAfter, step_eq, other_eq, alikeAfter⟩ := submitted.exists_eq
      rw [step_eq, other_eq]
      exact alikeSteps_iff.mpr ⟨rfl, alikeAfter.settle⟩

theorem Alike.await_eq
    (alike : Alike first second)
    (number : Nat) :
    await number first = await number second := by
  refine alike.eq_of_invariant (await number) fun client => ?_
  unfold await
  rw [Session.request?_redact]
  cases client.request? number with
  | none | some => rfl

theorem Alike.readSentence (alike : Alike first second) :
    AlikeSteps first.readSentence second.readSentence := by
  have read := Stream.redacted_readSentence alike.stream_eq first.link.decoder
  unfold Client.readSentence
  rw [← alike.decoder_eq]
  generalize first.link.stream.readSentence first.link.decoder = step at read ⊢
  generalize second.link.stream.readSentence first.link.decoder = other at read ⊢
  obtain ⟨result, decoder, stream⟩ := step
  obtain ⟨otherResult, otherDecoder, otherStream⟩ := other
  obtain ⟨result_eq, rest⟩ := Prod.mk.inj read
  obtain ⟨decoder_eq, stream_eq⟩ := Prod.mk.inj rest
  change result = otherResult at result_eq
  change decoder = otherDecoder at decoder_eq
  subst result_eq decoder_eq
  have exchanged := (alike.withStream stream_eq).of_commutes
    (Session.modifyLink ({ · with decoder })) fun _ => rfl
  cases result with
  | ok words => exact alikeSteps_iff.mpr ⟨rfl, exchanged.log ..⟩
  | error error =>
      cases error with
      | transport reason => exact alikeSteps_iff.mpr ⟨rfl, exchanged.close⟩
      | _ =>
          refine alikeSteps_iff.mpr ⟨rfl, ?_⟩
          split
          · exact exchanged.close
          · exact exchanged

theorem Alike.readReplyFrom
    (alike : Alike first second)
    (fuel : Nat)
    (reply : Reply) :
    AlikeSteps (readReplyFrom fuel reply first) (readReplyFrom fuel reply second) := by
  induction fuel generalizing first second reply with
  | zero =>
      refine alikeSteps_iff.mpr ⟨?_, alike⟩
      rw [alike.decoder_eq]
  | succ fuel inductionHypothesis =>
      have read := alike.readSentence
      unfold Client.readReplyFrom
      obtain ⟨result, after, otherAfter, step_eq, other_eq, alikeAfter⟩ := read.exists_eq
      rw [step_eq, other_eq]
      cases result with
      | error error => exact alikeSteps_iff.mpr ⟨rfl, alikeAfter⟩
      | ok sentence =>
          simp only
          split
          · exact alikeSteps_iff.mpr ⟨rfl, alikeAfter⟩
          · exact inductionHypothesis alikeAfter _

theorem Alike.readReply (alike : Alike first second) :
    AlikeSteps first.readReply second.readReply := by
  have unread : first.link.stream.unreadSize = second.link.stream.unreadSize :=
    congrArg (·.unreadSize) alike.stream_eq
  have size_eq : first.unreadSize = second.unreadSize := by
    rw [unreadSize, unreadSize, unread, alike.decoder_eq]
  have read := alike.readReplyFrom (first.unreadSize + 1) {}
  unfold Client.readReply
  rw [← size_eq]
  obtain ⟨result, after, otherAfter, step_eq, other_eq, alikeAfter⟩ := read.exists_eq
  rw [step_eq, other_eq]
  cases result with
  | error error => exact alikeSteps_iff.mpr ⟨rfl, alikeAfter⟩
  | ok reply =>
      simp only
      split
      · exact alikeSteps_iff.mpr ⟨rfl, alikeAfter.close⟩
      · exact alikeSteps_iff.mpr ⟨rfl, alikeAfter⟩

/-- Running commands that look alike are alike steps, in either mode. -/
theorem Alike.run
    (alike : Alike first second)
    (lookAlike : LookAlike first.link.decoder.encoding words others) :
    AlikeSteps (first.run words) (second.run others) := by
  unfold Client.run
  rw [← alike.isAsynchronous_eq]
  split
  · have started := alike.start lookAlike (.callbacks none none)
    unfold runAsync
    obtain ⟨result, after, otherAfter, step_eq, other_eq, alikeAfter⟩ := started.exists_eq
    rw [step_eq, other_eq]
    cases result with
    | error error => exact alikeSteps_iff.mpr ⟨rfl, alikeAfter⟩
    | ok number => exact alikeSteps_iff.mpr ⟨alikeAfter.await_eq number, alikeAfter⟩
  · have written := alike.write Alike.close lookAlike
    unfold runSync
    obtain ⟨result, after, otherAfter, step_eq, other_eq, alikeAfter⟩ := written.exists_eq
    rw [step_eq, other_eq]
    cases result with
    | error error => exact alikeSteps_iff.mpr ⟨rfl, alikeAfter⟩
    | ok =>
        have read := alikeAfter.readReply
        simp only
        obtain ⟨result, after, otherAfter, step_eq, other_eq, alikeAfter⟩ := read.exists_eq
        rw [step_eq, other_eq]
        cases result with
        | error | ok => exact alikeSteps_iff.mpr ⟨rfl, alikeAfter⟩

end Client
end RouterApi
