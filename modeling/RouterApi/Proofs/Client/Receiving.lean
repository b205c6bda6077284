import RouterApi.Proofs.Client.Transport
import RouterApi.Proofs.Wire.Chunks
import RouterApi.Proofs.Wire.Segments

/-!
# What a synchronous command receives

A synchronous command receives from its stream only as long as the answer to it is not there: every
sentence that is complete in what has been received is not terminal.
-/

namespace RouterApi

/-! ## Pieces taken by a reading -/

/-- A sentence that is read is handed out for the pieces that have been received for it. -/
theorem Stream.Yields.exists_taken
    {decoder rest : Wire.Decoder}
    {stream after : Stream}
    {words : List Text}
    {result : Except Error (List Text) × Wire.Decoder × Stream}
    (yields : Yields decoder stream result)
    (read : result = (.ok words, rest, after)) :
    ∃ taken, stream.unread = taken ++ after.unread ∧
      after.receives = stream.receives + taken.length ∧
      (decoder.feed (taken.flatMap Chunk.bytes)).next = .ok (some (words, rest)) := by
  induction yields with
  | malformed | lost | ended => cases read
  | @complete decoder stream words rest found =>
      cases read
      exact ⟨[], rfl, rfl, by simpa using found⟩
  | @more decoder stream byte bytes middle result incomplete received later inductionHypothesis =>
      obtain ⟨taken, unread_eq, receives_eq, found⟩ := inductionHypothesis read
      have counted := receives_receive stream
      rw [received] at counted
      refine ⟨.data (byte :: bytes) :: taken, ?_, ?_, ?_⟩
      · rw [receive_eq_ok_cons received, unread_eq, List.cons_append]
      · simp only at counted
        rw [receives_eq, counted, List.length_cons]
        omega
      · rw [List.flatMap_cons, Wire.Decoder.feed_append]
        exact found

namespace Client

variable {client : Client} {count : Nat}

/-- The decoder of a client, fed with the first pieces that are there to be received. -/
def fedWith
    (count : Nat)
    (client : Client) : Wire.Decoder :=
  client.link.decoder.feed ((client.link.stream.unread.take count).flatMap Chunk.bytes)

/-- Closing a client without a reader receives nothing. -/
theorem receives_close (readerless : client.link.reader = .absent) :
    client.close.link.stream.receives = client.link.stream.receives := by
  cases isClosed : client.link.isClosed with
  | true => simp [close, isClosed]
  | false =>
      rw [close_of_readerless readerless isClosed, link_shutDown isClosed]
      rfl

/-- A client that reads a sentence has received the pieces that the sentence needed. -/
theorem exists_taken_of_readSentence
    {sentence : Sentence}
    {after : Client}
    (read : client.readSentence = (.ok sentence, after)) :
    after.link.reader = client.link.reader ∧ ∃ taken,
      client.link.stream.unread = taken ++ after.link.stream.unread ∧
      after.link.stream.receives = client.link.stream.receives + taken.length ∧
      ∃ words, sentence = .ofTexts words ∧
        (client.link.decoder.feed (taken.flatMap Chunk.bytes)).next =
          .ok (some (words, after.link.decoder)) := by
  have yields := Stream.yields_readSentence client.link.decoder client.link.stream
  unfold readSentence at read
  generalize client.link.stream.readSentence client.link.decoder = result at yields read
  obtain ⟨outcome, rest, stream⟩ := result
  cases outcome with
  | error error => cases error <;> cases read
  | ok words =>
      cases read
      obtain ⟨taken, unread_eq, receives_eq, found⟩ := yields.exists_taken rfl
      exact ⟨rfl, taken, unread_eq, receives_eq, words, rfl, found⟩

/-- A client receives what its stream receives for a sentence, also if it closes then. -/
theorem receives_readSentence (readerless : client.link.reader = .absent) :
    client.readSentence.2.link.stream.receives =
      (client.link.stream.readSentence client.link.decoder).2.2.receives := by
  unfold readSentence
  generalize client.link.stream.readSentence client.link.decoder = result
  obtain ⟨outcome, decoder, stream⟩ := result
  have closed : (close (client.modifyLink ({ · with decoder, stream }))).link.stream.receives =
      stream.receives := receives_close readerless
  cases outcome with
  | ok words => rfl
  | error error =>
      cases error with
      | transport reason => exact closed
      | _ =>
          simp only
          split
          · exact closed
          · rfl

/-- While a sentence is read, a further piece is received only if no sentence is complete. -/
theorem next_fedWith_eq_none
    (readerless : client.link.reader = .absent)
    (further : client.link.stream.receives + count <
      client.readSentence.2.link.stream.receives) :
    (client.fedWith count).next = .ok none := by
  rw [receives_readSentence readerless] at further
  exact Stream.next_eq_none_of_receives_lt further

/-- While a reply is read, a further piece is received only if no terminal sentence is complete. -/
theorem isTerminal_eq_false_of_readReplyFrom
    (fuel : Nat)
    (reply : Reply)
    (readerless : client.link.reader = .absent)
    (further : client.link.stream.receives + count <
      (readReplyFrom fuel reply client).2.link.stream.receives) :
    ∀ sentence ∈ sentencesIn (client.fedWith count), sentence.isTerminal = false := by
  induction fuel generalizing client reply count with
  | zero => exact absurd further (by simp only [readReplyFrom]; omega)
  | succ fuel inductionHypothesis =>
      by_cases now : client.link.stream.receives + count <
          client.readSentence.2.link.stream.receives
      · -- The piece is received for the first sentence, so that none is complete.
        rw [sentencesIn,
          Wire.Decoder.drain_of_next_eq_none (next_fedWith_eq_none readerless now)]
        exact List.forall_mem_nil _
      · unfold readReplyFrom at further
        cases read : client.readSentence with
        | mk outcome after =>
            rw [read] at now further
            cases outcome with
            | error error => exact absurd further now
            | ok sentence =>
                obtain ⟨reader_eq, taken, unread_eq, receives_eq, words, rfl, found⟩ :=
                  exists_taken_of_readSentence read
                simp only at further now
                split at further
                · exact absurd further now
                · rename_i goesOn
                  -- The first sentence takes its pieces, and the further one comes after those.
                  have count_eq : count = taken.length + (count - taken.length) := by omega
                  have furtherLater : after.link.stream.receives + (count - taken.length) <
                      (readReplyFrom fuel (reply.process (.ofTexts words))
                        after).2.link.stream.receives := by omega
                  have later := inductionHypothesis (reply.process (.ofTexts words))
                    (reader_eq.trans readerless) furtherLater
                  have leads : Wire.Decoder.Leads (client.fedWith count) [words]
                      (after.fedWith (count - taken.length)) := by
                    rw [fedWith, unread_eq, count_eq, List.take_length_add_append,
                      List.flatMap_append, Wire.Decoder.feed_append, ← count_eq]
                    exact .step (Wire.Decoder.next_feed_of_some found _) .refl
                  rw [Wire.Decoder.sentencesIn_of_leads leads]
                  exact List.forall_mem_cons.mpr ⟨by simpa using goesOn, later⟩

/-! ## Commands -/

/-- The pieces that are there to be received once the next command has been written. -/
def awaiting (client : Client) : List Chunk :=
  client.link.stream.unread ++
    (client.link.stream.script.take 1).flatMap fun answer => answer.arriving.flatMap Stream.pieces

/-- The decoder of a client, fed with the first pieces that are received for the next command. -/
def received
    (count : Nat)
    (client : Client) : Wire.Decoder :=
  client.link.decoder.feed ((client.awaiting.take count).flatMap Chunk.bytes)

theorem receives_send
    (data : Bytes)
    (stream : Stream) :
    (stream.send data).2.receives = stream.receives := by
  unfold Stream.send
  split <;> rfl

/-- What is there to be received after a write. -/
theorem unread_eq_awaiting
    {data : Bytes}
    {stream : Stream}
    (sent : client.link.stream.send data = (.ok (), stream)) :
    stream.unread = client.awaiting := by
  unfold awaiting
  unfold Stream.send at sent
  cases script : client.link.stream.script with
  | nil =>
      simp only [script] at sent
      cases sent
      simp
  | cons answer rest =>
      cases answer with
      | failure reason =>
          simp only [script] at sent
          cases sent
      | chunks arriving =>
          simp only [script] at sent
          cases sent
          simp [Stream.arrive, Answer.arriving]

/-- Reading a reply receives what reading its sentences does. -/
theorem IsPlain.receives_readReply
    {closes : Nat}
    (plain : client.IsPlain closes)
    (isOpen : client.link.isClosed = false) :
    client.readReply.2.link.stream.receives =
      (Client.readReplyFrom (client.unreadSize + 1) {} client).2.link.stream.receives := by
  have read := converses_isPlain.readReplyFrom (client.unreadSize + 1) {} isOpen plain
  unfold Client.readReply
  cases result : Client.readReplyFrom (client.unreadSize + 1) {} client with
  | mk outcome after =>
      rw [result] at read
      cases outcome with
      | error error => rfl
      | ok reply =>
          simp only
          split
          · exact receives_close read.readerless
          · rfl

/-- A command receives a further piece only if no terminal sentence is complete. -/
theorem IsPlain.isTerminal_eq_false_of_run
    {closes : Nat}
    (plain : client.IsPlain closes)
    {words : List Word}
    (further : client.link.stream.receives + count <
      (client.run words).2.link.stream.receives) :
    ∀ sentence ∈ sentencesIn (client.received count), sentence.isTerminal = false := by
  have run_eq : (client.run words).2 = (client.runSync words).2 := by
    simp only [Client.run, plain.synchronous]
    cases client.runSync words with
    | mk outcome after => cases outcome <;> rfl
  rw [run_eq, Client.runSync] at further
  have written := written_write Client.close words client
  have fair := plain.write words
  generalize Client.write Client.close words client = result at written fair further
  cases written with
  | unencoded | refused | unshown => exact absurd further (by simp only; omega)
  | @failed data shown reason stream encoded isOpen masked failed =>
      have receives_eq := receives_send data client.link.stream
      rw [failed] at receives_eq
      have closed : (Client.close ((client.showing shown).modifyLink
          ({ · with stream }))).link.stream.receives = stream.receives :=
        receives_close plain.readerless
      simp only [closed] at further
      simp only at receives_eq
      omega
  | @sent data shown stream encoded isOpen masked sent =>
      have receives_eq := receives_send data client.link.stream
      rw [sent] at receives_eq
      simp only at further receives_eq
      rw [fair.plain.receives_readReply isOpen, ← receives_eq] at further
      have nonterminal := isTerminal_eq_false_of_readReplyFrom _ _ fair.plain.readerless further
      rw [received, ← unread_eq_awaiting sent]
      exact nonterminal

end Client
end RouterApi
