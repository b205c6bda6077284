import RouterApi.Proofs.Client.Awaiting
import RouterApi.Proofs.Client.Life
import RouterApi.Proofs.Wire.WordErrors

/-!
# Replies to commands

Which reply a command gets is told apart from what running it comes to. On a synchronous connection
the reply is made of the sentences that are read after the command has been written, up to the first
terminal one; on an asynchronous one its request collects it. A command that gets a reply comes to
the result of it. Without a reply it fails or waits, and on a synchronous connection it does not
fail with anything that the device reported.
-/

namespace RouterApi

/-! ## Errors that no device has reported -/

/-- What the device reports are errors of the API. -/
theorem Error.deviceFailure?_of_not_isApi
    {error : Error}
    (notApi : error.kind.isApi = false) :
    error.deviceFailure? = none := by
  cases error with
  | reported failure reply =>
      cases failure with
      | trap | fatal | unknown => cases notApi
  | _ => rfl

theorem Wire.Scans.deviceFailure?_eq_none
    {encoding : Value}
    {buffer : Bytes}
    {outcome : Except Error Scan}
    {error : Error}
    (scans : Scans encoding buffer outcome)
    (failed : outcome = .error error) :
    error.deviceFailure? = none := by
  induction scans with
  | reserved =>
      cases failed
      rfl
  | starved | ended | cut => cases failed
  | undecodable _ _ malformed =>
      cases failed
      exact Error.deviceFailure?_of_not_isApi (Encoding.isApi_of_decode_eq_error malformed)
  | @word _ _ _ _ outcome _ _ _ _ inductionHypothesis =>
      cases outcome with
      | error reason =>
          cases failed
          exact inductionHypothesis rfl
      | ok scan => cases failed

theorem Stream.deviceFailure?_endError (decoder : Wire.Decoder) :
    (endError decoder).deviceFailure? = none := by
  unfold endError
  split
  · rfl
  · rfl

theorem Stream.Yields.deviceFailure?_eq_none
    {decoder rest : Wire.Decoder}
    {stream after : Stream}
    {error : Error}
    {result : Except Error (List Text) × Wire.Decoder × Stream}
    (yields : Yields decoder stream result)
    (failed : result = (.error error, rest, after)) :
    error.deviceFailure? = none := by
  induction yields with
  | malformed malformed =>
      cases failed
      exact (Wire.Decoder.next_eq_error_iff.mp malformed).deviceFailure?_eq_none rfl
  | complete => cases failed
  | lost =>
      cases failed
      rfl
  | ended =>
      cases failed
      exact deviceFailure?_endError _
  | more _ _ _ inductionHypothesis => exact inductionHypothesis failed

/-- What ends the reading of a reply has not been reported by the device. -/
theorem Hears.deviceFailure?_eq_none
    {decoder : Wire.Decoder}
    {stream : Stream}
    {sentences : List Sentence}
    {ending : Option Error}
    {error : Error}
    (hears : Hears decoder stream sentences ending)
    (broken : ending = some error) :
    error.deviceFailure? = none := by
  induction hears with
  | broken failed =>
      cases broken
      exact failed.deviceFailure?_eq_none rfl
  | last => cases broken
  | next _ _ _ inductionHypothesis => exact inductionHypothesis broken

namespace Client

variable {client : Client} {words : List Text} {reply : Reply}

theorem deviceFailure?_surfaced
    {error : Error}
    (unreported : error.deviceFailure? = none) :
    (surfaced error).deviceFailure? = none := by
  cases error with
  | transport reason => rfl
  | _ => exact unreported

/-! ## The reply to a command -/

/-- The complete reply that a command of a client gets, if it gets one. -/
inductive GetsReply
    (words : List Text)
    (client : Client) : Reply → Prop
  | read {data stream sentences}
      (synchronous : client.link.isAsynchronous = false)
      (isOpen : client.link.isClosed = false)
      (encoded :
        Wire.encodeSentence client.link.decoder.encoding (words.map .text) = .ok data)
      (sent : client.link.stream.send data = (.ok (), stream))
      (hears : Hears client.link.decoder stream sentences none) :
      GetsReply words client (sentences.foldl Reply.process {})
  | collected {number after request}
      (asynchronous : client.link.isAsynchronous = true)
      (issued : client.runAsync (words.map .text) none none = (.ok number, after))
      (known : after.request? number = some request)
      (complete : request.reply.isComplete = true) :
      GetsReply words client request.reply

/-- A command gets at most one reply. -/
theorem GetsReply.unique
    {other : Reply}
    (gets : GetsReply words client reply)
    (otherGets : GetsReply words client other) :
    reply = other := by
  cases gets with
  | read synchronous _ encoded sent hears =>
      cases otherGets with
      | read _ _ otherEncoded otherSent otherHears =>
          cases encoded.symm.trans otherEncoded
          cases sent.symm.trans otherSent
          obtain ⟨rfl, -⟩ := hears.unique otherHears
          rfl
      | collected asynchronous => cases synchronous.symm.trans asynchronous
  | collected asynchronous issued known =>
      cases otherGets with
      | read synchronous => cases synchronous.symm.trans asynchronous
      | collected _ otherIssued otherKnown =>
          cases issued.symm.trans otherIssued
          cases known.symm.trans otherKnown
          rfl

/-- What running a command comes to, given the reply that it gets. -/
inductive ComesTo
    (words : List Text)
    (client : Client) : Outcome Reply → Prop
  | replied {reply : Reply}
      (gets : GetsReply words client reply) :
      ComesTo words client (outcomeOf reply.result)
  | failed {error}
      (replyless : ∀ reply, ¬ GetsReply words client reply)
      (unreported : client.link.isAsynchronous = false → error.deviceFailure? = none) :
      ComesTo words client (.raised error)
  | waiting
      (replyless : ∀ reply, ¬ GetsReply words client reply)
      (asynchronous : client.link.isAsynchronous = true) :
      ComesTo words client .waiting

/-- A command that gets a reply comes to its result. -/
theorem ComesTo.of_getsReply
    {outcome : Outcome Reply}
    (comes : ComesTo words client outcome)
    (gets : GetsReply words client reply) :
    outcome = outcomeOf reply.result := by
  cases comes with
  | replied otherGets => rw [gets.unique otherGets]
  | failed replyless | waiting replyless => exact absurd gets (replyless reply)

/-! ## Synchronous commands -/

theorem fst_readReply
    (client : Client)
    {sentences : List Sentence}
    {ending : Option Error}
    (hears : Hears client.link.decoder client.link.stream sentences ending) :
    (readReply client).1 =
      match ending with
      | none => (sentences.foldl Reply.process {}).result
      | some error => .error (surfaced error) := by
  have read := readReplyFrom_of_hears hears rfl rfl (Nat.lt_succ_self _) {}
  unfold readReply
  rcases read with ⟨rfl, after, read, -⟩ | ⟨error, after, rfl, read, -⟩
  · rw [read]
    simp only
    split
    · rfl
    · rfl
  · rw [read]

/-- A synchronous command is answered by the sentences that are read once it has been written. -/
theorem comesTo_of_synchronous
    (synchronous : client.link.isAsynchronous = false)
    (words : List Text) :
    ComesTo words client (client.run (words.map .text)).1 := by
  have run_eq : (client.run (words.map .text)).1 =
      outcomeOf (client.runSync (words.map .text)).1 := by
    unfold run
    simp only [synchronous]
    cases client.runSync (words.map .text) with
    | mk outcome after =>
        cases outcome with
        | error | ok => rfl
  have replyless
      (unheard : ∀ {data stream sentences}, client.link.isClosed = false →
        Wire.encodeSentence client.link.decoder.encoding (words.map .text) = .ok data →
        client.link.stream.send data = (.ok (), stream) →
        ¬ Hears client.link.decoder stream sentences none)
      (reply : Reply) : ¬ GetsReply words client reply := by
    intro gets
    cases gets with
    | read _ isOpen encoded sent hears => exact unheard isOpen encoded sent hears
    | collected asynchronous => cases synchronous.symm.trans asynchronous
  rw [run_eq, runSync]
  have written := written_write close (words.map .text) client
  generalize Client.write close (words.map .text) client = result at written ⊢
  cases written with
  | @unencoded error encoded =>
      have notApi := Wire.isApi_of_encodeSentence_eq_error encoded
      refine .failed (replyless fun _ otherEncoded => ?_)
        fun _ => Error.deviceFailure?_of_not_isApi notApi
      cases encoded.symm.trans otherEncoded
  | refused _ isClosed =>
      refine .failed (replyless fun isOpen => ?_) fun _ => rfl
      cases isClosed.symm.trans isOpen
  | unshown _ _ masked => cases masked.symm.trans (Word.maskedAll_map_text words)
  | failed encoded _ _ failed =>
      refine .failed (replyless fun _ otherEncoded sent => ?_) fun _ => rfl
      cases encoded.symm.trans otherEncoded
      cases failed.symm.trans sent
  | @sent data shown stream encoded isOpen _ sent =>
      obtain ⟨sentences, ending, hears⟩ := Hears.total client.link.decoder stream
      have read := fst_readReply ((client.showing shown).modifyLink ({ · with stream })) hears
      simp only
      rw [read]
      cases ending with
      | none => exact .replied (.read synchronous isOpen encoded sent hears)
      | some error =>
          refine .failed (replyless fun _ otherEncoded otherSent otherHears => ?_)
            fun _ => deviceFailure?_surfaced (hears.deviceFailure?_eq_none rfl)
          cases encoded.symm.trans otherEncoded
          cases sent.symm.trans otherSent
          cases (hears.unique otherHears).2

/-! ## Asynchronous commands -/

/-- An asynchronous command is answered by what its request has collected. -/
theorem comesTo_of_asynchronous
    (sound : client.IsSound)
    (asynchronous : client.link.isAsynchronous = true)
    (words : List Text) :
    ComesTo words client (client.run (words.map .text)).1 := by
  have unreported {error : Error} (synchronous : client.link.isAsynchronous = false) :
      error.deviceFailure? = none := by
    cases synchronous.symm.trans asynchronous
  unfold run
  simp only [asynchronous, if_true]
  cases issued : client.runAsync (words.map .text) none none with
  | mk outcome after =>
      cases outcome with
      | error error =>
          refine .failed (fun reply gets => ?_) unreported
          cases gets with
          | read synchronous => cases synchronous.symm.trans asynchronous
          | collected _ otherIssued => cases issued.symm.trans otherIssued
      | ok number =>
          have replyless {request : Request} (known : after.request? number = some request)
              (incomplete : request.reply.isComplete = false) (reply : Reply) :
              ¬ GetsReply words client reply := by
            intro gets
            cases gets with
            | read synchronous => cases synchronous.symm.trans asynchronous
            | collected _ otherIssued otherKnown complete =>
                cases issued.symm.trans otherIssued
                cases known.symm.trans otherKnown
                cases incomplete.symm.trans complete
          simp only
          cases fares_of_runAsync sound asynchronous issued with
          | unanswered incomplete alone =>
              cases alone with
              | awaited awaits =>
                  rw [await_eq_of_request? awaits.known]
                  exact .waiting (replyless awaits.known incomplete) asynchronous
              | cutOff rests =>
                  rw [await_eq_of_request? rests.known]
                  exact .failed (replyless rests.known incomplete) unreported
          | @answered reply sentence terminal rests =>
              have complete := reply.isComplete_process sentence
              rw [terminal, Bool.or_true] at complete
              rw [await_eq_of_request? rests.known, answer_of_terminal terminal]
              exact .replied (.collected asynchronous issued rests.known complete)

/-- What running a command comes to. -/
theorem comesTo_run
    (sound : client.IsSound)
    (words : List Text) :
    ComesTo words client (client.run (words.map .text)).1 := by
  cases mode : client.link.isAsynchronous with
  | true => exact comesTo_of_asynchronous sound mode words
  | false => exact comesTo_of_synchronous mode words

/-! ## Clients with a sound table -/

/-- The table of a client stays sound. -/
theorem endures_isSound : Endures (fun _ _ => True) (fun _ => True) Session.IsSound :=
  steady_isSound.endures (fun _ sound => ⟨sound.distinct, sound.owned⟩)
    fun _ _ _ sound => sound.modify _ fun _ => rfl

theorem isSound_write
    (sound : client.IsSound)
    (words : List Word) :
    (write close words client).2.IsSound :=
  steady_isSound.transmits.toWrites.write endures_isSound.closeByCaller words sound

theorem isSound_run
    (sound : client.IsSound)
    (words : List Word) :
    (client.run words).2.IsSound :=
  endures_isSound.run (fun _ => isSound_write sound words) sound

theorem isSound_live
    (sound : client.IsSound)
    (actions : List Action) :
    (client.live actions).IsSound :=
  endures_isSound.live (fun words _ sound => isSound_write sound words) actions sound

end Client
end RouterApi
