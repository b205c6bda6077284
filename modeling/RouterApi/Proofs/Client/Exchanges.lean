import RouterApi.Proofs.Client.Stability
import RouterApi.Proofs.Wire.Reading

/-!
# Synchronous exchanges

A synchronous client writes a command, and then reads sentences until the reply is complete. Reading
is made of three steps, so what these keep is kept by a whole exchange.
-/

namespace RouterApi
namespace Client

/-- A property of clients is kept by reading replies if each step of it keeps the property: a
sentence is taken from an open connection and shown, or the connection is closed. -/
structure Converses (Property : Client → Prop) : Prop where
  log : ∀ {client : Client} level source message, Property client →
    Property (client.log level source message)
  exchange : ∀ {client : Client} {result decoder stream}, client.link.isClosed = false →
    Stream.Yields client.link.decoder client.link.stream (result, decoder, stream) →
    Property client → Property (client.modifyLink ({ · with decoder, stream }))
  close : ∀ {client : Client}, Property client → Property client.close

variable
  {Property : Client → Prop}
  {client after : Client}

theorem Converses.readSentence
    (converses : Converses Property)
    (isOpen : client.link.isClosed = false)
    (property : Property client) :
    Property client.readSentence.2 := by
  have yields := Stream.yields_readSentence client.link.decoder client.link.stream
  unfold Client.readSentence
  generalize client.link.stream.readSentence client.link.decoder = read at yields
  obtain ⟨result, decoder, stream⟩ := read
  have exchanged := converses.exchange isOpen yields property
  cases result with
  | ok words => exact converses.log _ _ _ exchanged
  | error error =>
      cases error with
      | transport reason => exact converses.close exchanged
      | _ =>
          simp only
          split
          · exact converses.close exchanged
          · exact exchanged

/-- A connection stays open while sentences are read from it. -/
theorem isClosed_readSentence
    {sentence : Sentence}
    (read : client.readSentence = (.ok sentence, after)) :
    after.link.isClosed = client.link.isClosed := by
  unfold Client.readSentence at read
  generalize client.link.stream.readSentence client.link.decoder = yielded at read
  obtain ⟨result, decoder, stream⟩ := yielded
  cases result with
  | ok words =>
      cases read
      rfl
  | error error =>
      cases error with
      | _ => cases read

theorem Converses.readReplyFrom
    (converses : Converses Property)
    (fuel : Nat)
    (reply : Reply)
    (isOpen : client.link.isClosed = false)
    (property : Property client) :
    Property (readReplyFrom fuel reply client).2 := by
  induction fuel generalizing client reply with
  | zero => exact property
  | succ fuel inductionHypothesis =>
      have read := converses.readSentence isOpen property
      unfold Client.readReplyFrom
      cases result : client.readSentence with
      | mk outcome after =>
          rw [result] at read
          cases outcome with
          | error error => exact read
          | ok sentence =>
              simp only
              split
              · exact read
              · exact inductionHypothesis _ ((isClosed_readSentence result).trans isOpen) read

theorem Converses.readReply
    (converses : Converses Property)
    (isOpen : client.link.isClosed = false)
    (property : Property client) :
    Property client.readReply.2 := by
  have read := converses.readReplyFrom (client.unreadSize + 1) {} isOpen property
  unfold Client.readReply
  cases result : Client.readReplyFrom (client.unreadSize + 1) {} client with
  | mk outcome after =>
      rw [result] at read
      cases outcome with
      | error error => exact read
      | ok reply =>
          simp only
          split
          · exact converses.close read
          · exact read

/-- A connection stays open while a reply is read, unless the reply cannot be returned. -/
theorem isClosed_of_readReplyFrom
    {fuel : Nat}
    {reply result : Reply}
    (read : readReplyFrom fuel reply client = (.ok result, after)) :
    after.link.isClosed = client.link.isClosed := by
  induction fuel generalizing client reply with
  | zero => cases read
  | succ fuel inductionHypothesis =>
      unfold readReplyFrom at read
      cases first : client.readSentence with
      | mk outcome between =>
          rw [first] at read
          cases outcome with
          | error error => cases read
          | ok sentence =>
              have between_eq := isClosed_readSentence first
              simp only at read
              split at read
              · cases read
                exact between_eq
              · exact (inductionHypothesis read).trans between_eq

theorem isClosed_of_readReply
    {reply : Reply}
    (read : client.readReply = (.ok reply, after)) :
    after.link.isClosed = client.link.isClosed := by
  unfold readReply at read
  cases whole : readReplyFrom (client.unreadSize + 1) {} client with
  | mk outcome between =>
      rw [whole] at read
      cases outcome with
      | error error => cases read
      | ok found =>
          simp only at read
          split at read
          case h_1 sentence failure =>
            simp [Reply.result, Reply.error?, failure] at read
          · obtain ⟨-, rfl⟩ := Prod.mk.inj read
            exact isClosed_of_readReplyFrom whole

/-! ## Commands -/

variable {words : List Word}

/-- A sentence is only written on an open connection that stays open. -/
theorem isOpen_of_write
    {close : Client → Client}
    (result : write close words client = (.ok (), after)) :
    after.link.isClosed = false := by
  have written := written_write close words client
  rw [result] at written
  cases written with
  | sent _ isOpen => exact isOpen

/-- A synchronous command is written and, if that succeeds, its reply is read. -/
theorem run_of_synchronous
    (words : List Word)
    (synchronous : client.link.isAsynchronous = false) :
    (client.run words).2 =
      match write close words client with
      | (.error _, after) => after
      | (.ok (), after) => after.readReply.2 := by
  unfold run runSync
  rw [if_neg (by simp [synchronous])]
  cases write close words client with
  | mk outcome written =>
      cases outcome with
      | error => rfl
      | ok =>
          simp only
          cases readReply written with
          | mk outcome after =>
              cases outcome with
              | error => rfl
              | ok => rfl

/-- What holds once a synchronous command has been written holds after its reply. -/
theorem Converses.run
    (converses : Converses Property)
    (synchronous : client.link.isAsynchronous = false)
    (written : Property (write Client.close words client).2) :
    Property (client.run words).2 := by
  rw [run_of_synchronous words synchronous]
  cases result : write Client.close words client with
  | mk outcome after =>
      rw [result] at written
      cases outcome with
      | error => exact written
      | ok => exact converses.readReply (isOpen_of_write result) written

end Client
end RouterApi
