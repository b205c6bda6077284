import RouterApi.Client.Reader
import RouterApi.Proofs.Session.Redaction
import RouterApi.Proofs.Wire.Reading

/-!
# Alike clients

Two clients are alike if they only differ in the words of the commands they have issued, and in the
data they have given to their streams. The device answers in the same way whatever it is sent, and
what a client does to its requests does not depend on the words, so alike clients stay alike.
-/

namespace RouterApi

/-- A stream without the data that it has been given. -/
def Stream.redact (stream : Stream) : Stream :=
  { stream with offered := [], written := [] }

/-- A connection whose stream is redacted. -/
def Connection.redact (link : Connection) : Connection :=
  { link with stream := link.stream.redact }

namespace Stream

/-- The result of a step of a stream, and the redacted stream after it. -/
def redacted
    {α : Type}
    (outcome : α × Stream) : α × Stream :=
  (outcome.1, outcome.2.redact)

/-- What the device answers does not depend on what it is sent. -/
theorem redacted_send
    (data other : Bytes)
    (stream : Stream) :
    redacted (stream.send data) = redacted (stream.redact.send other) := by
  unfold send redact
  simp only
  cases stream.script with
  | nil => rfl
  | cons answer rest =>
      cases answer with
      | chunks | failure => rfl

theorem redacted_receive (stream : Stream) :
    redacted stream.receive = stream.redact.receive := by
  unfold receive redact
  simp only
  cases stream.unread with
  | nil => rfl
  | cons chunk rest =>
      cases chunk with
      | data | failure => rfl

theorem redacted_takeArrived (stream : Stream) :
    redacted stream.takeArrived = stream.redact.takeArrived := by
  unfold takeArrived
  have same : stream.redact.unread = stream.unread := rfl
  rw [same]
  split
  · rfl
  · rfl
  · rfl

/-- What is read from a redacted stream is what is read from the stream. -/
theorem Yields.redact
    {decoder : Wire.Decoder}
    {stream : Stream}
    {result : Except Error (List Text) × Wire.Decoder × Stream}
    (yields : Yields decoder stream result) :
    Yields decoder stream.redact (result.1, redacted result.2) := by
  have received_redact {stream after : Stream} {outcome : Except Text Bytes}
      (received : stream.receive = (outcome, after)) :
      stream.redact.receive = (outcome, after.redact) := by
    rw [← redacted_receive, received]
    rfl
  induction yields with
  | malformed failed => exact .malformed failed
  | complete found => exact .complete found
  | lost incomplete failed => exact .lost incomplete (received_redact failed)
  | ended incomplete nothing => exact .ended incomplete (received_redact nothing)
  | more incomplete received _ inductionHypothesis =>
      exact .more incomplete (received_redact received) inductionHypothesis

/-- What is read from a stream does not depend on what it has been given. -/
theorem redacted_readSentence
    {stream other : Stream}
    (same : stream.redact = other.redact)
    (decoder : Wire.Decoder) :
    ((stream.readSentence decoder).1, redacted (stream.readSentence decoder).2) =
      ((other.readSentence decoder).1, redacted (other.readSentence decoder).2) := by
  have read := yields_iff.mp (yields_readSentence decoder stream).redact
  have otherRead := yields_iff.mp (yields_readSentence decoder other).redact
  rw [← read, ← otherRead, same]

end Stream

namespace Client

/-- Two clients are alike if they are the same when redacted. -/
def Alike (first second : Client) : Prop :=
  Session.redact Connection.redact first = Session.redact Connection.redact second

/-- Two steps are alike if they have the same result, and end in alike clients. -/
def AlikeSteps
    {α : Type}
    (first second : α × Client) : Prop :=
  Session.redacted Connection.redact first = Session.redacted Connection.redact second

theorem alikeSteps_iff
    {α : Type}
    {result other : α}
    {first second : Client} :
    AlikeSteps (result, first) (other, second) ↔ result = other ∧ Alike first second :=
  Prod.mk.injEq .. ▸ Iff.rfl

/-- Alike steps have one result and two alike clients. -/
theorem AlikeSteps.exists_eq
    {α : Type}
    {step other : α × Client}
    (alike : AlikeSteps step other) :
    ∃ result first second, step = (result, first) ∧ other = (result, second) ∧
      Alike first second := by
  obtain ⟨result, first⟩ := step
  obtain ⟨otherResult, second⟩ := other
  obtain ⟨rfl, alikeAfter⟩ := alikeSteps_iff.mp alike
  exact ⟨result, first, second, rfl, rfl, alikeAfter⟩

variable {first second : Client}

/-- A step that commutes with redaction leaves alike clients alike. -/
theorem Alike.of_commutes
    (alike : Alike first second)
    (step : Client → Client)
    (commutes : ∀ client, Session.redact Connection.redact (step client) =
      step (Session.redact Connection.redact client)) :
    Alike (step first) (step second) := by
  unfold Alike
  rw [commutes, commutes, alike]

/-- What redaction does not change is the same for alike clients. -/
theorem Alike.eq_of_invariant
    {α : Type}
    (alike : Alike first second)
    (view : Client → α)
    (invariant : ∀ client, view (Session.redact Connection.redact client) = view client) :
    view first = view second := by
  rw [← invariant first, ← invariant second, alike]

/-- A client is like itself when it is redacted. -/
theorem alike_redact (client : Client) :
    Alike client (Session.redact Connection.redact client) := by
  have requests_eq : (client.dispatcher.requests.map Request.redact).map Request.redact =
      client.dispatcher.requests.map Request.redact := by
    rw [List.map_map]
    rfl
  simp only [Alike, Session.redact, Dispatcher.redact, requests_eq]
  rfl

theorem Alike.log
    (alike : Alike first second)
    (level : LogLevel)
    (source : LogSource)
    (message : Text) :
    Alike (first.log level source message) (second.log level source message) :=
  alike.of_commutes (Session.log level source message) fun _ => rfl

theorem Alike.logAbout
    (alike : Alike first second)
    (level : LogLevel)
    (source : LogSource)
    (message : Text) :
    Alike (logAbout level source message first) (logAbout level source message second) :=
  alike.of_commutes (Client.logAbout level source message) fun _ => rfl

/-! ## What alike clients have in common -/

theorem Alike.isClosed_eq (alike : Alike first second) :
    first.link.isClosed = second.link.isClosed :=
  congrArg (·.link.isClosed) alike

theorem Alike.isAsynchronous_eq (alike : Alike first second) :
    first.link.isAsynchronous = second.link.isAsynchronous :=
  congrArg (·.link.isAsynchronous) alike

theorem Alike.decoder_eq (alike : Alike first second) : first.link.decoder = second.link.decoder :=
  congrArg (·.link.decoder) alike

theorem Alike.reader_eq (alike : Alike first second) : first.link.reader = second.link.reader :=
  congrArg (·.link.reader) alike

theorem Alike.stream_eq (alike : Alike first second) :
    first.link.stream.redact = second.link.stream.redact :=
  congrArg (·.link.stream) alike

theorem Alike.dispatcher_eq (alike : Alike first second) :
    first.dispatcher.redact = second.dispatcher.redact :=
  congrArg Session.dispatcher alike

theorem Alike.journal_eq (alike : Alike first second) : first.journal = second.journal :=
  congrArg (·.journal) alike

theorem Alike.minted_eq (alike : Alike first second) :
    first.dispatcher.minted = second.dispatcher.minted :=
  congrArg (·.dispatcher.minted) alike

/-- Alike clients stay alike when their streams make alike steps. -/
theorem Alike.withStream
    (alike : Alike first second)
    {stream other : Stream}
    (same : stream.redact = other.redact) :
    Alike (first.modifyLink ({ · with stream }))
      (second.modifyLink ({ · with stream := other })) := by
  have changed : Session.modifyLink ({ · with stream := stream.redact })
        (Session.redact Connection.redact first) =
      Session.modifyLink ({ · with stream := stream.redact })
        (Session.redact Connection.redact second) := by
    rw [alike]
  rw [same] at changed
  have first_eq : Session.redact Connection.redact (first.modifyLink ({ · with stream })) =
      Session.modifyLink ({ · with stream := stream.redact })
        (Session.redact Connection.redact first) := rfl
  unfold Alike
  rw [first_eq, same, changed]
  rfl

/-- Alike clients stay alike when their requests become alike. -/
theorem Alike.withDispatcher
    (alike : Alike first second)
    {dispatcher other : Dispatcher}
    (same : dispatcher.redact = other.redact) :
    Alike { first with dispatcher } { second with dispatcher := other } := by
  have link_eq : first.link.redact = second.link.redact := congrArg Session.link alike
  have journal_eq : first.journal = second.journal := alike.journal_eq
  simp only [Alike, Session.redact, same, link_eq, journal_eq]

/-! ## Closing -/

theorem redact_shutDown (client : Client) :
    Session.redact Connection.redact client.shutDown =
      shutDown (Session.redact Connection.redact client) := by
  have same : (Session.redact Connection.redact client).link.isClosed = client.link.isClosed := rfl
  unfold shutDown
  rw [same]
  split
  · rfl
  · have mirrors (client : Client) :
        Session.redact Connection.redact (id client) =
          id (Session.redact Connection.redact client) :=
      rfl
    exact Session.redact_failAll mirrors _ _

theorem Alike.shutDown (alike : Alike first second) : Alike first.shutDown second.shutDown :=
  alike.of_commutes Client.shutDown redact_shutDown

/-- The end of the reader leaves alike clients alike. -/
theorem Alike.endReader
    (alike : Alike first second)
    (error : Error) :
    Alike (endReader error first) (endReader error second) := by
  have noted : Alike
      (if error.kind.isApi then first
        else first.log .error .request (literal "unexpected error in reader thread"))
      (if error.kind.isApi then second
        else second.log .error .request (literal "unexpected error in reader thread")) := by
    split
    · exact alike
    · exact alike.log ..
  unfold Client.endReader
  generalize (if error.kind.isApi then first else _) = first at noted ⊢
  generalize (if error.kind.isApi then second else _) = second at noted ⊢
  have ended := noted.of_commutes (Session.modifyLink ({ · with reader := .ended error }))
    fun _ => rfl
  have failed :=
    (ended.log .debug .request (literal "reader exiting: " ++ error.message)).of_commutes
      (Session.failAll Client.shutDown error) (Session.redact_failAll redact_shutDown error)
  simp only [failed.isClosed_eq]
  split
  · exact (failed.logAbout ..).shutDown
  · exact (failed.logAbout ..).shutDown

end Client
end RouterApi
