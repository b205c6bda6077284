import RouterApi.Proofs.Client.Sealed
import RouterApi.Proofs.Client.Transport

/-!
# What is offered to a stream

All data that a client offers to its stream are encodings of commands, in the encoding that the
client was made with. A command is offered if it can be encoded and shown, and if the connection is
open. Closing a connection offers nothing.
-/

namespace RouterApi

/-- The data of a command that is written: its encoding, if it has one and can be shown. -/
def Wire.payload?
    (encoding : Value)
    (words : List Word) : Option Bytes :=
  match encodeSentence encoding words, Word.maskedAll words with
  | .ok data, .ok _ => some data
  | _, _ => none

namespace Stream

@[simp] theorem offered_send
    (data : Bytes)
    (stream : Stream) :
    (stream.send data).2.offered = stream.offered ++ [data] := by
  unfold send
  split <;> rfl

theorem offered_receive (stream : Stream) : stream.receive.2.offered = stream.offered := by
  unfold receive
  simp only
  split <;> rfl

theorem offered_takeArrived (stream : Stream) :
    stream.takeArrived.2.offered = stream.offered := by
  unfold takeArrived
  split <;> rfl

theorem Yields.offered_eq
    {decoder : Wire.Decoder}
    {stream : Stream}
    {result : Except Error (List Text) × Wire.Decoder × Stream}
    (yields : Yields decoder stream result) :
    result.2.2.offered = stream.offered :=
  yields.keeps (·.offered = stream.offered) (fun other => (offered_receive other).trans) rfl

end Stream

namespace Wire

variable {encoding : Value} {words : List Word} {data : Bytes}

theorem payload?_eq_some_iff :
    payload? encoding words = some data ↔
      encodeSentence encoding words = .ok data ∧ ∃ shown, Word.maskedAll words = .ok shown := by
  unfold payload?
  cases encodeSentence encoding words with
  | error error => simp
  | ok other =>
      cases Word.maskedAll words with
      | error error => simp
      | ok shown => simp

theorem payload?_of_error
    {error : Error}
    (failed : encodeSentence encoding words = .error error) :
    payload? encoding words = none := by
  simp [payload?, failed]

theorem payload?_of_unshown
    {error : Error}
    (unshown : Word.maskedAll words = .error error) :
    payload? encoding words = none := by
  simp only [payload?, unshown]
  split
  · contradiction
  · rfl

end Wire

/-- A connection has an encoding if its decoder does, and also the one that a reader that is held up
goes on with. -/
structure Connection.HasEncoding
    (encoding : Value)
    (link : Connection) : Prop where
  encoding_eq : link.decoder.encoding = encoding
  fitting : ∀ {number sentence later ending}, link.reader = .stalled number sentence later ending →
    Client.IsFitting (· = encoding) ending

namespace Client

variable {client : Client} {encoding : Value}

/-! ## The encoding of a client -/

theorem steady_hasEncoding (encoding : Value) :
    Steady (fun _ => True) fun client => client.link.HasEncoding encoding :=
  steady_link (·.HasEncoding encoding)
    (fun _ _ _ hasEncoding => ⟨hasEncoding.encoding_eq, hasEncoding.fitting⟩)
    fun _ _ hasEncoding => ⟨hasEncoding.encoding_eq, hasEncoding.fitting⟩

/-- Without a reader, the encoding is that of the decoder. -/
theorem hasEncoding_of_readerless (readerless : client.link.reader = .absent) :
    client.link.HasEncoding client.link.decoder.encoding := by
  refine ⟨rfl, fun reader => ?_⟩
  rw [readerless] at reader
  contradiction

/-- A client keeps its encoding. -/
theorem endures_hasEncoding (encoding : Value) :
    Endures (fun _ _ => True) (· = encoding) fun client => client.link.HasEncoding encoding where
  toSession := (steady_hasEncoding encoding).stableUnder.upholds
  fits hasEncoding := hasEncoding.encoding_eq
  holdup hasEncoding reader := ⟨⟨[], trivial⟩, hasEncoding.fitting reader⟩
  take _ hasEncoding := ⟨hasEncoding.encoding_eq, hasEncoding.fitting⟩
  idle fits _ := ⟨fits, nofun⟩
  hold _ _ _ fitting _ hasEncoding := ⟨hasEncoding.encoding_eq, fun | rfl => fitting⟩
  endReader := (steady_hasEncoding encoding).shuts.endReader
    fun _ hasEncoding => ⟨hasEncoding.encoding_eq, nofun⟩
  owner _ := ⟨[], trivial⟩
  conclude error := (steady_hasEncoding encoding).conclude error trivial
  items _ _ _ hasEncoding := hasEncoding
  arrive _ hasEncoding := ⟨hasEncoding.encoding_eq, hasEncoding.fitting⟩
  vanish hasEncoding := ⟨hasEncoding.encoding_eq, hasEncoding.fitting⟩
  engage _ _ hasEncoding := ⟨hasEncoding.encoding_eq, nofun⟩
  exchange _ yields hasEncoding :=
    ⟨yields.encoding_eq.trans hasEncoding.encoding_eq, hasEncoding.fitting⟩
  submit words handler keeps :=
    (steady_hasEncoding encoding).transmits.submit keeps words handler

/-- Running a command keeps the encoding. -/
theorem hasEncoding_run
    (words : List Word)
    (hasEncoding : client.link.HasEncoding encoding) :
    (client.run words).2.link.HasEncoding encoding := by
  have endures := endures_hasEncoding encoding
  have writes := (steady_hasEncoding encoding).transmits.toWrites
  exact endures.run (fun _ => writes.write endures.closeByCaller words hasEncoding) hasEncoding

/-! ## Closing and reading -/

theorem offered_shutDown (client : Client) :
    client.shutDown.link.stream.offered = client.link.stream.offered := by
  cases isClosed : client.link.isClosed with
  | true =>
      unfold shutDown
      rw [if_pos isClosed]
  | false =>
      rw [link_shutDown isClosed]
      rfl

/-- Closing a connection offers nothing, whatever its reader does then. -/
theorem offered_close (client : Client) :
    client.close.link.stream.offered = client.link.stream.offered := by
  cases isClosed : client.link.isClosed with
  | true =>
      unfold close
      rw [if_pos isClosed]
  | false =>
      have isSealed :
          client.shutDown.link.IsSealed (·.offered = client.link.stream.offered) :=
        ⟨(isCutOff_shutDown isClosed).isClosed, offered_shutDown client⟩
      have settled := (upholds_isSealed _).settle isSealed
      unfold close
      rw [if_neg (by simp [isClosed])]
      exact settled.fact

theorem converses_offered (offered : List Bytes) :
    Converses fun client => client.link.stream.offered = offered where
  log _ _ _ same := same
  exchange _ yields same := yields.offered_eq.trans same
  close {client} same := (offered_close client).trans same

theorem converses_isAsynchronous (mode : Bool) :
    Converses fun client => client.link.isAsynchronous = mode where
  log _ _ _ same := same
  exchange _ _ same := same
  close := (stable_isAsynchronous mode).close

/-- A synchronous client stays synchronous when it runs commands. -/
theorem isAsynchronous_run
    (synchronous : client.link.isAsynchronous = false)
    (words : List Word) :
    (client.run words).2.link.isAsynchronous = false := by
  have steady := steady_isAsynchronous false
  exact (converses_isAsynchronous false).run synchronous
    (steady.transmits.toWrites.write (stable_isAsynchronous false).close words synchronous)

/-! ## Writing -/

/-- What a command offers to the stream: its payload, if it has one and the connection is open. -/
def offer
    (words : List Word)
    (client : Client) : List Bytes :=
  if client.link.isClosed then []
  else (Wire.payload? client.link.decoder.encoding words).toList

theorem offer_of_isClosed
    (isClosed : client.link.isClosed = true)
    (words : List Word) :
    client.offer words = [] :=
  if_pos isClosed

theorem offer_of_isOpen
    (isOpen : client.link.isClosed = false)
    (words : List Word) :
    client.offer words = (Wire.payload? client.link.decoder.encoding words).toList :=
  if_neg (by simp [isOpen])

theorem length_offer_le
    (words : List Word)
    (client : Client) :
    (client.offer words).length ≤ 1 := by
  unfold offer
  split
  · exact Nat.zero_le 1
  · cases Wire.payload? client.link.decoder.encoding words with
    | none => exact Nat.zero_le 1
    | some data => exact Nat.le_refl 1

/-- A sentence is offered if the connection is open and the sentence has a payload. -/
theorem offered_write
    {close : Client → Client}
    (keeps : ∀ client, (close client).link.stream.offered = client.link.stream.offered)
    (words : List Word)
    (client : Client) :
    (write close words client).2.link.stream.offered =
      client.link.stream.offered ++ client.offer words := by
  have written := written_write close words client
  generalize write close words client = result at written
  cases written with
  | unencoded failed => simp [offer, Wire.payload?_of_error failed]
  | refused _ isClosed => simp [offer_of_isClosed isClosed]
  | unshown _ _ unshown => simp [offer, Wire.payload?_of_unshown unshown]
  | @sent data shown stream encoded isOpen masked sent =>
      have offered := Stream.offered_send data client.link.stream
      rw [sent] at offered
      have payload := Wire.payload?_eq_some_iff.mpr ⟨encoded, shown, masked⟩
      rw [offer_of_isOpen isOpen, payload]
      exact offered
  | @failed data shown reason stream encoded isOpen masked failed =>
      have offered := Stream.offered_send data client.link.stream
      rw [failed] at offered
      have payload := Wire.payload?_eq_some_iff.mpr ⟨encoded, shown, masked⟩
      rw [offer_of_isOpen isOpen, payload]
      exact (keeps _).trans offered

/-- A synchronous run offers its command, and nothing else. -/
theorem offered_run
    (synchronous : client.link.isAsynchronous = false)
    (words : List Word) :
    (client.run words).2.link.stream.offered =
      client.link.stream.offered ++ client.offer words :=
  (converses_offered _).run synchronous (offered_write offered_close words client)

end Client
end RouterApi
