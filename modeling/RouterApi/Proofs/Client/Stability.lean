import RouterApi.Client.Commands
import RouterApi.Proofs.Client.Submission
import RouterApi.Proofs.Session.Stability
import RouterApi.Proofs.Wire.Fragments

/-!
# Stable properties of clients

A client adds a few elementary updates of its connection to those of its requests. A property that
each of them keeps is kept by everything that the background reader does, by closing the connection
and by submitting commands.
-/

namespace RouterApi
namespace Client

/-- The first thing that closing does: the connection counts as closed, and so does its stream. -/
def closing (client : Client) : Client :=
  (logAbout .info .client (literal "closing connection")
    (client.modifyLink ({ · with isClosed := true }))).modifyLink
      fun link => { link with stream := link.stream.close }

/-- A property of clients is kept by the end of a connection if completing the requests and closing
the connection keep it. -/
structure Shuts
    (Concerned : Nat → Prop)
    (Property : Client → Prop) : Prop extends Session.Settles Concerned Property where
  closing : ∀ {client : Client}, client.link.isClosed = false → Property client →
    Property client.closing

/-- A property of clients is steady if whatever a callback can cause keeps it: the updates of
requests, the submission of commands and the closing of the connection. -/
structure Steady
    (Concerned : Nat → Prop)
    (Property : Client → Prop) : Prop extends
    toSession : Session.Stable Concerned Property where
  enlist : ∀ {client} words handler, Property client → Property (client.enlist words handler)
  enroll : ∀ {client : Client} words handler, client.dispatcher.failure = none →
    client.lookup? client.nextTag = none → Property client →
    Property (client.enroll words handler)
  send : ∀ {client : Client} data, Property client → client.link.isClosed = false →
    Property (client.modifyLink ({ · with stream := (client.link.stream.send data).2 }))
  closing : ∀ {client : Client}, client.link.isClosed = false → Property client →
    Property client.closing

/-- A property of clients is stable if it is steady, and the updates of the background reader keep
it as well. The reader is only held up by a concerned request. -/
structure Stable
    (Concerned : Nat → Prop)
    (Property : Client → Prop) : Prop extends Steady Concerned Property where
  holdup : ∀ {client : Client} {number sentence later ending}, Property client →
    client.link.reader = .stalled number sentence later ending → Concerned number
  take : ∀ {client : Client}, Property client →
    Property (client.modifyLink ({ · with stream := client.link.stream.takeArrived.2 }))
  idle : ∀ {client : Client} decoder, Property client →
    Property (client.modifyLink ({ · with decoder, reader := .reading }))
  hold : ∀ {client : Client} {number} sentence later ending, Concerned number →
    (client.request? number).isSome = true → Property client →
    Property (client.modifyLink ({ · with reader := .stalled number sentence later ending }))
  exit : ∀ {client : Client} error, Property client →
    Property (client.modifyLink ({ · with reader := .ended error }))

/-- A decoder that is left over reads in an encoding that fits. -/
def IsFitting
    (Fits : Value → Prop)
    (ending : Wire.Decoder.Ending) : Prop :=
  ∀ decoder, ending = .ok decoder → Fits decoder.encoding

theorem isFitting_drain
    {Fits : Value → Prop}
    {decoder : Wire.Decoder}
    (fits : Fits decoder.encoding) :
    IsFitting Fits decoder.drain.2 := by
  intro rest drained
  have drains := Wire.Decoder.drains_drain decoder
  rw [drained] at drains
  rwa [drains.encoding_eq]

/-- A property of clients is upheld if whatever the background reader does keeps it, where the end
of the reader is a single step. The reader is only held up by an owned request. The encoding fits,
and the reader does not exchange it for one that does not. -/
structure Upholds
    (Owns : Text → Nat → Prop)
    (Fits : Value → Prop)
    (Property : Client → Prop) : Prop extends
    toSession : Session.Upholds readerHost Owns Property where
  fits : ∀ {client : Client}, Property client → Fits client.link.decoder.encoding
  holdup : ∀ {client : Client} {number sentence later ending}, Property client →
    client.link.reader = .stalled number sentence later ending →
    (∃ tag, Owns tag number) ∧ IsFitting Fits ending
  take : ∀ {client : Client}, client.link.isClosed = false → Property client →
    Property (client.modifyLink ({ · with stream := client.link.stream.takeArrived.2 }))
  idle : ∀ {client : Client} {decoder}, Fits decoder.encoding → Property client →
    Property (client.modifyLink ({ · with decoder, reader := .reading }))
  hold : ∀ {client : Client} {tag number ending} sentence later, Owns tag number →
    IsFitting Fits ending → (client.request? number).isSome = true → Property client →
    Property (client.modifyLink ({ · with reader := .stalled number sentence later ending }))
  endReader : ∀ {client : Client} error, Property client → Property (endReader error client)

/-- A property of clients survives the background reader if each step of it keeps the property,
where dispatching a sentence is a single step, and so is the end of the reader. -/
structure Survives
    (Fits : Value → Prop)
    (Property : Client → Prop) : Prop where
  fits : ∀ {client : Client}, Property client → Fits client.link.decoder.encoding
  fitting : ∀ {client : Client} {number sentence later ending}, Property client →
    client.link.reader = .stalled number sentence later ending → IsFitting Fits ending
  note : ∀ {client : Client} message, Property client →
    Property (client.log .debug .request message)
  dispatch : ∀ {client : Client} sentence, Property client →
    Property (client.dispatch readerHost sentence).2
  deliver : ∀ {client : Client} {number sentence later ending}, Property client →
    client.link.reader = .stalled number sentence later ending →
    Property (client.deliver readerHost number sentence).2
  take : ∀ {client : Client}, client.link.isClosed = false → Property client →
    Property (client.modifyLink ({ · with stream := client.link.stream.takeArrived.2 }))
  idle : ∀ {client : Client} {decoder}, Fits decoder.encoding → Property client →
    Property (client.modifyLink ({ · with decoder, reader := .reading }))
  hold : ∀ {client after : Client} {sentence number ending} later, Property client →
    client.dispatch readerHost sentence = (.stalled number, after) → IsFitting Fits ending →
    Property after →
    Property (after.modifyLink ({ · with reader := .stalled number sentence later ending }))
  endReader : ∀ {client : Client} error, Property client → Property (endReader error client)

variable
  {Concerned : Nat → Prop}
  {Owns : Text → Nat → Prop}
  {Fits : Value → Prop}
  {Property : Client → Prop}
  {client : Client}

/-- A fact about the connection alone is steady if sending data and closing keep it. -/
theorem steady_link
    (Fact : Connection → Prop)
    (send : ∀ (link : Connection) data, link.isClosed = false → Fact link →
      Fact { link with stream := (link.stream.send data).2 })
    (closing : ∀ link : Connection, link.isClosed = false → Fact link →
      Fact { link with isClosed := true, stream := link.stream.close }) :
    Steady (fun _ => True) fun client => Fact client.link where
  toSession := Session.stable_link Fact
  enlist _ _ fact := fact
  enroll _ _ _ _ fact := fact
  send {client} data fact isOpen := send client.link data isOpen fact
  closing {client} isOpen fact := closing client.link isOpen fact

/-- A steady property stays steady together with one that concerns no request in particular. -/
theorem Steady.and
    {Fact : Client → Prop}
    (steady : Steady Concerned Property)
    (factSteady : Steady (fun _ => True) Fact) :
    Steady Concerned fun client => Property client ∧ Fact client where
  toSession := steady.toSession.and factSteady.toSession
  enlist words handler both :=
    ⟨steady.enlist words handler both.1, factSteady.enlist words handler both.2⟩
  enroll words handler working free both :=
    ⟨steady.enroll words handler working free both.1,
      factSteady.enroll words handler working free both.2⟩
  send data both isOpen := ⟨steady.send data both.1 isOpen, factSteady.send data both.2 isOpen⟩
  closing isOpen both := ⟨steady.closing isOpen both.1, factSteady.closing isOpen both.2⟩

/-! ## Closing and writing -/

theorem Steady.logAbout
    (steady : Steady Concerned Property)
    (level : LogLevel)
    (source : LogSource)
    (message : Text)
    (property : Property client) :
    Property (logAbout level source message client) :=
  steady.log level source _ property

theorem Steady.transmits (steady : Steady Concerned Property) : Transmits Property where
  enlist := steady.enlist
  enroll := steady.enroll
  showing _ := steady.log .debug .client _
  send := steady.send
  remove := steady.remove

theorem Shuts.shutDown
    (shuts : Shuts Concerned Property)
    (property : Property client) :
    Property client.shutDown := by
  unfold Client.shutDown
  cases isClosed : client.link.isClosed with
  | true => simpa [isClosed] using property
  | false =>
      simp only
      exact shuts.failAll id _ (shuts.closing isClosed property)

theorem Steady.shuts (steady : Steady Concerned Property) : Shuts Concerned Property where
  toSettles := steady.toSettles
  closing := steady.closing

theorem Steady.shutDown
    (steady : Steady Concerned Property)
    (property : Property client) :
    Property client.shutDown :=
  steady.shuts.shutDown property

/-! ## The background reader -/

/-- Giving up leaves the connection as it is. -/
theorem eq_of_giveUp
    {link after : Connection}
    (givenUp : readerHost.giveUp? link = some after) :
    after = link := by
  simp only [readerHost] at givenUp
  split at givenUp
  · exact (Option.some.inj givenUp).symm
  · contradiction

/-- A steady property is stable under the background reader. -/
theorem Steady.stableUnder (steady : Steady Concerned Property) :
    Session.StableUnder readerHost Concerned Property where
  toStable := steady.toSession
  cancel := steady.transmits.cancel steady.shutDown
  close := steady.shutDown
  giveUp {client link} givenUp property := by
    rwa [eq_of_giveUp givenUp]

/-- The end of the reader closes the connection, after an entry in the log. -/
theorem Shuts.endReader
    (shuts : Shuts Concerned Property)
    (exit : ∀ {client : Client} error, Property client →
      Property (client.modifyLink ({ · with reader := .ended error })))
    (error : Error)
    (property : Property client) :
    Property (endReader error client) := by
  unfold Client.endReader
  have noted : Property
      (if error.kind.isApi then client
        else client.log .error .request (literal "unexpected error in reader thread")) := by
    split
    · exact property
    · exact shuts.log _ _ _ property
  generalize (if error.kind.isApi then client else _) = noted at noted ⊢
  have failed := shuts.failAll shuts.shutDown error
    (shuts.log .debug .request (literal "reader exiting: " ++ error.message)
      (exit error noted))
  simp only
  split
  · exact shuts.shutDown (shuts.log _ _ _ failed)
  · exact shuts.shutDown (shuts.log _ _ _ failed)

theorem Stable.endReader
    (stable : Stable Concerned Property)
    (error : Error)
    (property : Property client) :
    Property (endReader error client) :=
  stable.toSteady.shuts.endReader stable.exit error property

/-- A stable property is upheld. -/
theorem Stable.upholds (stable : Stable Concerned Property) :
    Upholds (fun _ => Concerned) (fun _ => True) Property where
  toSession := stable.toSteady.stableUnder.upholds
  fits _ := trivial
  holdup property reader := ⟨⟨[], stable.holdup property reader⟩, fun _ _ => trivial⟩
  take _ := stable.take
  idle _ := stable.idle _
  hold sentence later concerned _ := stable.hold sentence later _ concerned
  endReader := stable.endReader

/-- A property that is upheld survives the background reader. A sentence is only held up by a
request that an entry of the table leads to. -/
theorem Upholds.survives (upholds : Upholds Owns Fits Property) : Survives Fits Property where
  fits := upholds.fits
  fitting property reader := (upholds.holdup property reader).2
  note message := upholds.log .debug .request message
  dispatch sentence := upholds.dispatch sentence
  deliver property reader := by
    obtain ⟨⟨tag, owned⟩, -⟩ := upholds.holdup property reader
    exact upholds.deliver tag _ owned property
  take := upholds.take
  idle := upholds.idle
  hold later property stalled fitting dispatched := by
    obtain ⟨tag, found, again⟩ := Session.dispatch_eq_stalled stalled
    obtain ⟨-, request, queue, known, -⟩ := Session.deliver_eq_stalled again
    exact upholds.hold _ _ (upholds.entry property (Assoc.mem_of_get?_eq_some found)) fitting
      (by rw [known]; rfl) dispatched
  endReader := upholds.endReader

/-- Dispatching decoded sentences keeps a property that survives the reader. -/
theorem Survives.consume
    (survives : Survives Fits Property)
    (sentences : List (List Text))
    {ending : Wire.Decoder.Ending}
    (fitting : IsFitting Fits ending)
    (property : Property client) :
    Property (consume sentences ending client) := by
  induction sentences generalizing client with
  | nil =>
      cases ending with
      | ok decoder => exact survives.idle (fitting decoder rfl) property
      | error error => exact survives.endReader _ property
  | cons words later inductionHypothesis =>
      have noted := survives.note (literal "<<< " ++ (Sentence.ofTexts words).summary) property
      have dispatched := survives.dispatch (Sentence.ofTexts words) noted
      unfold Client.consume
      simp only
      cases result : Session.dispatch readerHost (Sentence.ofTexts words) _ with
      | mk outcome after =>
          rw [result] at dispatched
          cases outcome with
          | handled => exact inductionHypothesis dispatched
          | raised error => exact survives.endReader error dispatched
          | stalled number => exact survives.hold later noted result fitting dispatched

theorem Survives.consumeFrom
    (survives : Survives Fits Property)
    {decoder : Wire.Decoder}
    (fits : Fits decoder.encoding)
    (property : Property client) :
    Property (consumeFrom decoder client) :=
  survives.consume _ (isFitting_drain fits) property

theorem Survives.resume
    (survives : Survives Fits Property)
    (property : Property client) :
    Property (resume client) := by
  unfold Client.resume
  cases reader : client.link.reader with
  | absent | reading | ended => simpa [reader] using property
  | stalled number sentence later ending =>
      have fitting := survives.fitting property reader
      have delivered := survives.deliver property reader
      simp only
      cases result : Session.deliver readerHost number sentence client with
      | mk delivery after =>
          rw [result] at delivered
          cases delivery with
          | stalled => exact delivered
          | accepted | failed => exact survives.consume later fitting delivered

theorem Survives.pump
    (survives : Survives Fits Property)
    (fuel : Nat)
    (property : Property client) :
    Property (pump fuel client) := by
  induction fuel generalizing client with
  | zero => exact property
  | succ fuel inductionHypothesis =>
      unfold Client.pump
      cases client.link.reader with
      | absent | stalled | ended => exact property
      | reading =>
          simp only
          split
          · exact survives.endReader _ property
          · rename_i isOpen
            have taken := survives.take (Bool.eq_false_iff.mpr isOpen) property
            cases result : client.link.stream.takeArrived with
            | mk arrival stream =>
                rw [result] at taken
                cases arrival with
                | nothing => exact property
                | ended => exact survives.endReader _ property
                | failure reason => exact survives.endReader _ taken
                | data bytes =>
                    have fits : Fits (client.link.decoder.feed bytes).encoding :=
                      survives.fits property
                    exact inductionHypothesis (survives.consumeFrom fits taken)

/-- Whatever the background reader does keeps a property that survives it. -/
theorem Survives.settle
    (survives : Survives Fits Property)
    (property : Property client) :
    Property (settle client) :=
  survives.pump _ (survives.resume property)

theorem Upholds.consume
    (upholds : Upholds Owns Fits Property)
    (sentences : List (List Text))
    {ending : Wire.Decoder.Ending}
    (fitting : IsFitting Fits ending)
    (property : Property client) :
    Property (consume sentences ending client) :=
  upholds.survives.consume sentences fitting property

theorem Upholds.consumeFrom
    (upholds : Upholds Owns Fits Property)
    {decoder : Wire.Decoder}
    (fits : Fits decoder.encoding)
    (property : Property client) :
    Property (consumeFrom decoder client) :=
  upholds.survives.consumeFrom fits property

theorem Upholds.pump
    (upholds : Upholds Owns Fits Property)
    (fuel : Nat)
    (property : Property client) :
    Property (pump fuel client) :=
  upholds.survives.pump fuel property

/-- Whatever the background reader does keeps a property that is upheld. -/
theorem Upholds.settle
    (upholds : Upholds Owns Fits Property)
    (property : Property client) :
    Property (settle client) :=
  upholds.survives.settle property

/-! ## Operations of the caller -/

/-- Closing the connection keeps a property that is upheld. -/
theorem Upholds.closeByCaller
    (upholds : Upholds Owns Fits Property)
    (property : Property client) :
    Property client.close := by
  unfold Client.close
  split
  · exact property
  · exact upholds.settle (upholds.close property)

theorem Stable.consume
    (stable : Stable Concerned Property)
    (sentences : List (List Text))
    (ending : Wire.Decoder.Ending)
    (property : Property client) :
    Property (consume sentences ending client) :=
  stable.upholds.consume sentences (fun _ _ => trivial) property

theorem Stable.consumeFrom
    (stable : Stable Concerned Property)
    (decoder : Wire.Decoder)
    (property : Property client) :
    Property (consumeFrom decoder client) :=
  stable.consume _ _ property

theorem Stable.settle
    (stable : Stable Concerned Property)
    (property : Property client) :
    Property (settle client) :=
  stable.upholds.settle property

theorem Stable.close
    (stable : Stable Concerned Property)
    (property : Property client) :
    Property client.close :=
  stable.upholds.closeByCaller property

theorem start_of_isAsynchronous
    (words : List Word)
    (handler : Handler)
    (asynchronous : client.link.isAsynchronous = true) :
    client.start words handler =
      ((submit close words handler client).1, settle (submit close words handler client).2) := by
  simp [start, switch, asynchronous]

/-- Issuing a command keeps a stable property of an asynchronous client. -/
theorem Stable.start
    (stable : Stable Concerned Property)
    (words : List Word)
    (handler : Handler)
    (asynchronous : client.link.isAsynchronous = true)
    (property : Property client) :
    Property (client.start words handler).2 := by
  rw [start_of_isAsynchronous words handler asynchronous]
  exact stable.settle (stable.toSteady.transmits.submit stable.close words handler property)

end Client
end RouterApi
