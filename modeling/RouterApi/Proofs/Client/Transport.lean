import RouterApi.Proofs.Client.Closing
import RouterApi.Proofs.Client.Exchanges
import RouterApi.Proofs.Client.Quiet
import RouterApi.Proofs.Wire.Reading

/-!
# The transport of a synchronous client

A synchronous client closes its stream when it closes the connection, and at no other time. A
command that succeeds leaves the connection open.
-/

namespace RouterApi

/-! ## Streams -/

namespace Stream

theorem closes_send
    (data : Bytes)
    (stream : Stream) :
    (stream.send data).2.closes = stream.closes := by
  unfold send
  split <;> rfl

theorem closes_receive (stream : Stream) : stream.receive.2.closes = stream.closes := by
  unfold receive
  simp only
  split <;> rfl

/-- Reading a sentence does not close the stream. -/
theorem Yields.closes_eq
    {decoder : Wire.Decoder}
    {stream : Stream}
    {result : Except Error (List Text) × Wire.Decoder × Stream}
    (yields : Yields decoder stream result) :
    result.2.2.closes = stream.closes :=
  yields.keeps (·.closes = stream.closes) (fun other => (closes_receive other).trans) rfl

end Stream

namespace Client

/-- A client is plain if it is synchronous, and if it has closed its stream just once if it is
closed, and not at all if it is open. -/
structure IsPlain
    (closes : Nat)
    (client : Client) : Prop where
  synchronous : client.link.isAsynchronous = false
  readerless : client.link.reader = .absent
  closes_eq : client.link.stream.closes = closes + client.link.isClosed.toNat

/-- An operation is fair if it leaves a plain client plain, and open if it succeeds. -/
structure IsFair
    {α : Type}
    (closes : Nat)
    (result : Except Error α × Client) : Prop where
  plain : result.2.IsPlain closes
  isOpen : ∀ {value}, result.1 = .ok value → result.2.link.isClosed = false

variable {closes : Nat} {client : Client}

/-! ## Closing -/

theorem link_shutDown (isOpen : client.link.isClosed = false) :
    client.shutDown.link = client.closing.link := by
  unfold shutDown
  simp only [isOpen]
  exact (Session.stable_link (· = client.closing.link)).failAll id _ rfl

theorem close_of_readerless
    (readerless : client.link.reader = .absent)
    (isOpen : client.link.isClosed = false) :
    client.close = client.shutDown := by
  have reader_eq : client.shutDown.link.reader = .absent := by
    rw [link_shutDown isOpen]
    exact readerless
  have quiet : client.shutDown.IsQuiet := by simp [IsQuiet, reader_eq]
  unfold close
  rw [settle_of_isQuiet quiet]
  simp [isOpen]

/-- Closing a plain client closes its stream, unless it is closed already. -/
theorem IsPlain.close (plain : client.IsPlain closes) : client.close.IsPlain closes := by
  cases isClosed : client.link.isClosed with
  | true =>
      unfold Client.close
      simpa [isClosed] using plain
  | false =>
      rw [close_of_readerless plain.readerless isClosed]
      have link_eq := link_shutDown isClosed
      have closes_eq := plain.closes_eq
      rw [isClosed] at closes_eq
      exact
        { synchronous := by
            rw [link_eq]
            exact plain.synchronous
          readerless := by
            rw [link_eq]
            exact plain.readerless
          closes_eq := by
            rw [link_eq]
            exact congrArg (· + 1) closes_eq }

/-! ## Writing and reading -/

theorem IsPlain.log
    (plain : client.IsPlain closes)
    (level : LogLevel)
    (source : LogSource)
    (message : Text) :
    IsPlain closes (client.log level source message) :=
  ⟨plain.synchronous, plain.readerless, plain.closes_eq⟩

theorem IsPlain.withStream
    (plain : client.IsPlain closes)
    {stream : Stream}
    (same : stream.closes = client.link.stream.closes) :
    IsPlain closes (client.modifyLink ({ · with stream })) :=
  ⟨plain.synchronous, plain.readerless, same.trans plain.closes_eq⟩

/-- Writing a sentence is fair. -/
theorem IsPlain.write
    (plain : client.IsPlain closes)
    (words : List Word) :
    IsFair closes (write Client.close words client) := by
  have written := written_write Client.close words client
  generalize Client.write Client.close words client = result at written ⊢
  cases written with
  | unencoded | refused | unshown => exact ⟨plain, nofun⟩
  | @sent data shown stream encoded isOpen masked sent =>
      have same := Stream.closes_send data client.link.stream
      rw [sent] at same
      exact ⟨(plain.log ..).withStream same, fun _ => isOpen⟩
  | @failed data shown reason stream encoded isOpen masked failed =>
      have same := Stream.closes_send data client.link.stream
      rw [failed] at same
      exact ⟨((plain.log ..).withStream same).close, nofun⟩

/-- A client stays plain while it reads replies. -/
theorem converses_isPlain : Converses (IsPlain closes) where
  log _ _ _ plain := plain.log ..
  exchange _ yields plain :=
    ⟨plain.synchronous, plain.readerless, yields.closes_eq.trans plain.closes_eq⟩
  close := IsPlain.close

/-- Reading a reply is fair on an open connection: a reply that closes it is a failure. -/
theorem IsPlain.readReply
    (plain : client.IsPlain closes)
    (isOpen : client.link.isClosed = false) :
    IsFair closes client.readReply := by
  refine ⟨converses_isPlain.readReply isOpen plain, ?_⟩
  intro reply returned
  exact (isClosed_of_readReply (Prod.ext returned rfl)).trans isOpen

/-- Running a command on a synchronous connection is fair. -/
theorem IsPlain.runSync
    (plain : client.IsPlain closes)
    (words : List Word) :
    IsFair closes (client.runSync words) := by
  have written := plain.write words
  unfold Client.runSync
  cases result : Client.write Client.close words client with
  | mk outcome after =>
      rw [result] at written
      cases outcome with
      | error error => exact ⟨written.plain, nofun⟩
      | ok => exact written.plain.readReply (written.isOpen rfl)

/-- An operation that may wait concludes if it does not, and is fair. -/
structure Concludes
    {α : Type}
    (closes : Nat)
    (result : Outcome α × Client) : Prop where
  plain : result.2.IsPlain closes
  isOpen : ∀ {value}, result.1 = .returned value → result.2.link.isClosed = false
  settled : result.1 ≠ .waiting

/-- A run on a plain client does not wait: it returns on an open connection, or fails. -/
theorem IsPlain.run
    (plain : client.IsPlain closes)
    (words : List Word) :
    Concludes closes (client.run words) := by
  have fair := plain.runSync words
  unfold Client.run
  simp only [plain.synchronous]
  cases result : client.runSync words with
  | mk outcome after =>
      rw [result] at fair
      cases outcome with
      | error error => exact ⟨fair.plain, nofun, nofun⟩
      | ok reply => exact ⟨fair.plain, fun _ => fair.isOpen rfl, nofun⟩

end Client
end RouterApi
