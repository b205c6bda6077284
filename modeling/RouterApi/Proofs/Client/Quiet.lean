import RouterApi.Proofs.Client.Stability
import RouterApi.Proofs.Wire.Reading

/-!
# Quiet clients

After each step of the caller the background reader does all that it can. Then it is absent or has
ended, or it waits for bytes that have not arrived, or for room in the queue of a listener. Each
turn of the reader takes something from the stream, so the turns that it is given are enough.
-/

namespace RouterApi

/-! ## Extent of a stream -/

namespace Stream

theorem extent_eq (stream : Stream) :
    stream.extent = stream.unread.length +
      stream.script.foldl (fun count answer => count + pieceCount answer) 0 :=
  foldl_add_eq pieceCount stream.script stream.unread.length

/-- A write lets nothing arrive but what was in the script. -/
theorem extent_send_le
    (data : Bytes)
    (stream : Stream) :
    (stream.send data).2.extent ≤ stream.extent := by
  rw [extent_eq, extent_eq]
  unfold send
  cases script : stream.script with
  | nil => simp
  | cons answer later =>
      cases answer with
      | failure reason => simp [pieceCount]
      | chunks arriving =>
          rw [List.foldl_cons, foldl_add_eq pieceCount later]
          simp only [arrive, pieceCount, List.length_append]
          omega

theorem length_spanData_le (chunks : List Chunk) :
    (spanData chunks).2.length ≤ chunks.length := by
  induction chunks with
  | nil => exact Nat.le_refl 0
  | cons chunk later inductionHypothesis =>
      cases chunk with
      | failure reason => exact Nat.le_refl _
      | data bytes => exact Nat.le_succ_of_le inductionHypothesis

/-- Bytes only come from the pieces at the front. -/
theorem length_spanData_lt
    {chunks : List Chunk}
    (found : (spanData chunks).1 ≠ []) :
    (spanData chunks).2.length < chunks.length := by
  cases chunks with
  | nil => contradiction
  | cons chunk later =>
      cases chunk with
      | failure reason => contradiction
      | data bytes => exact Nat.lt_succ_of_le (length_spanData_le later)

/-- Taking what has arrived leaves no more to come. -/
theorem extent_takeArrived_le (stream : Stream) :
    stream.takeArrived.2.extent ≤ stream.extent := by
  have shorter := length_spanData_le stream.unread
  rw [extent_eq, extent_eq]
  unfold takeArrived
  split
  · rename_i spanned
    simp only [spanned] at shorter ⊢
    omega
  · rename_i spanned
    simp only [spanned, List.length_cons] at shorter ⊢
    omega
  · rename_i left notFailure spanned
    simp only [spanned] at shorter ⊢
    omega

/-- Taking bytes leaves less to come. -/
theorem extent_lt_of_takeArrived_eq_data
    {stream after : Stream}
    {bytes : Bytes}
    (taken : stream.takeArrived = (.data bytes, after)) :
    after.extent < stream.extent := by
  unfold takeArrived at taken
  split at taken
  · rename_i spanned
    have found : (spanData stream.unread).1 ≠ [] := by simp [spanned]
    have shorter := length_spanData_lt found
    cases taken
    simp only [extent_eq, spanned] at shorter ⊢
    omega
  · cases taken
  · split at taken <;> cases taken

end Stream

namespace Client

/-- A client is quiet if its reader can do nothing before something happens. -/
def IsQuiet (client : Client) : Prop :=
  match client.link.reader with
  | .absent | .ended _ => True
  | .reading =>
      client.link.isClosed = false ∧ client.link.stream.takeArrived.1 = .nothing
  | .stalled number sentence _ _ =>
      (client.deliver readerHost number sentence).1 = .stalled

/-- A reader that is held up would be held up again. -/
def IsHeld (client : Client) : Prop :=
  ∀ {number sentence later ending}, client.link.reader = .stalled number sentence later ending →
    (client.deliver readerHost number sentence).1 = .stalled

variable {client : Client}

theorem resume_of_isQuiet (quiet : client.IsQuiet) : resume client = client := by
  unfold IsQuiet at quiet
  unfold resume
  cases reader : client.link.reader with
  | absent | reading | ended => rfl
  | stalled number sentence later ending =>
      simp only [reader] at quiet ⊢
      cases result : Session.deliver readerHost number sentence client with
      | mk delivery after =>
          rw [result] at quiet
          cases quiet
          obtain ⟨rfl, -⟩ := Session.deliver_eq_stalled result
          rfl

theorem pump_of_isQuiet
    (quiet : client.IsQuiet)
    (fuel : Nat) :
    pump fuel client = client := by
  unfold IsQuiet at quiet
  cases fuel with
  | zero => rfl
  | succ fuel =>
      unfold pump
      cases reader : client.link.reader with
      | absent | stalled | ended => rfl
      | reading =>
          rw [reader] at quiet
          obtain ⟨isOpen, nothing⟩ := quiet
          simp only [isOpen]
          cases taken : client.link.stream.takeArrived with
          | mk arrival stream =>
              rw [taken] at nothing
              cases nothing
              rfl

/-- The reader of a quiet client does nothing. -/
theorem settle_of_isQuiet (quiet : client.IsQuiet) : settle client = client := by
  unfold settle
  rw [resume_of_isQuiet quiet]
  exact pump_of_isQuiet quiet _

/-- At the end of the stream the reader ends. -/
theorem settle_of_ended
    (reading : client.link.reader = .reading)
    (isOpen : client.link.isClosed = false)
    (ended : client.link.stream.takeArrived.1 = .ended) :
    settle client = endReader (Stream.endError client.link.decoder) client := by
  simp only [settle, resume, reading, pump, isOpen]
  cases taken : client.link.stream.takeArrived with
  | mk arrival stream =>
      rw [taken] at ended
      cases ended
      rfl

/-! ## Every settled client is quiet -/

/-- Whether a sentence is held up depends on its request, and on whether the connection is open. -/
theorem deliver_eq_stalled_of_same
    {other : Client}
    {number : Nat}
    {sentence : Sentence}
    (stalled : (client.deliver readerHost number sentence).1 = .stalled)
    (sameRequest : ∀ {request}, client.request? number = some request →
      other.request? number = some request)
    (sameClosed : other.link.isClosed = client.link.isClosed) :
    (other.deliver readerHost number sentence).1 = .stalled := by
  cases result : Session.deliver readerHost number sentence client with
  | mk delivery after =>
      rw [result] at stalled
      cases stalled
      obtain ⟨-, request, queue, known, handler, full, waiting⟩ :=
        Session.deliver_eq_stalled result
      have stillWaiting : readerHost.giveUp? other.link = none := by
        simp only [readerHost, sameClosed] at waiting ⊢
        split at waiting
        · contradiction
        · simp_all
      rw [Session.deliver_of_full (sameRequest known) handler full stillWaiting]

theorem steady_reader (reader : Reader) :
    Steady (fun _ => True) fun client => client.link.reader = reader :=
  steady_link (·.reader = reader) (fun _ _ _ same => same) fun _ _ same => same

theorem stable_extent (bound : Nat) :
    Stable (fun _ => True) fun client => client.link.stream.extent ≤ bound where
  toSteady := steady_link (·.stream.extent ≤ bound)
    (fun _ data _ bounded => Nat.le_trans (Stream.extent_send_le data _) bounded)
    fun _ _ bounded => bounded
  holdup _ _ := trivial
  take bounded := Nat.le_trans (Stream.extent_takeArrived_le _) bounded
  idle _ bounded := bounded
  hold _ _ _ _ _ bounded := bounded
  exit _ bounded := bounded

/-- Once the reader has ended, it stays ended. -/
theorem reader_endReader
    (error : Error)
    (client : Client) :
    (endReader error client).link.reader = .ended error := by
  have steady := steady_reader (.ended error)
  unfold endReader
  generalize (if error.kind.isApi then client else _) = noted
  have failed := steady.failAll steady.shutDown error
    (steady.log .debug .request (literal "reader exiting: " ++ error.message)
      (show (noted.modifyLink ({ · with reader := .ended error })).link.reader = .ended error
        from rfl))
  simp only
  split
  · exact steady.shutDown (steady.logAbout _ _ _ failed)
  · exact steady.shutDown (steady.logAbout _ _ _ failed)

theorem isHeld_of_reader_eq_ended
    {error : Error}
    (ended : client.link.reader = .ended error) :
    client.IsHeld := by
  intro number sentence later ending reader
  rw [ended] at reader
  contradiction

/-- What holds the reader up is something that would hold it up again. -/
theorem isHeld_consume
    (sentences : List (List Text))
    (ending : Wire.Decoder.Ending)
    (client : Client) :
    (consume sentences ending client).IsHeld := by
  induction sentences generalizing client with
  | nil =>
      cases ending with
      | ok decoder =>
          intro number sentence later ending reader
          contradiction
      | error error => exact isHeld_of_reader_eq_ended (reader_endReader _ client)
  | cons words later inductionHypothesis =>
      unfold consume
      simp only
      cases result : Session.dispatch readerHost (Sentence.ofTexts words) _ with
      | mk outcome after =>
          cases outcome with
          | handled => exact inductionHypothesis after
          | raised error => exact isHeld_of_reader_eq_ended (reader_endReader error after)
          | stalled held =>
              obtain ⟨tag, -, again⟩ := Session.dispatch_eq_stalled result
              intro number sentence others last reader
              cases reader
              exact deliver_eq_stalled_of_same (congrArg Prod.fst again) id rfl

theorem isHeld_resume (client : Client) : (resume client).IsHeld := by
  unfold resume
  cases reader : client.link.reader with
  | absent | reading | ended =>
      intro number sentence later ending stalled
      rw [reader] at stalled
      contradiction
  | stalled number sentence later ending =>
      simp only
      cases result : Session.deliver readerHost number sentence client with
      | mk delivery after =>
          cases delivery with
          | accepted | failed => exact isHeld_consume later ending after
          | stalled =>
              obtain ⟨rfl, -⟩ := Session.deliver_eq_stalled result
              intro other another others last stalled
              rw [reader] at stalled
              cases stalled
              rw [result]

/-- With a turn for each piece that may arrive, the reader goes on until it is quiet. -/
theorem isQuiet_pump
    {fuel : Nat}
    (enough : client.link.stream.extent < fuel)
    (held : client.IsHeld) :
    (pump fuel client).IsQuiet := by
  induction fuel generalizing client with
  | zero => exact absurd enough (Nat.not_lt_zero _)
  | succ fuel inductionHypothesis =>
      unfold pump
      cases reader : client.link.reader with
      | absent => simp [IsQuiet, reader]
      | ended error => simp [IsQuiet, reader]
      | stalled number sentence later ending => simp [IsQuiet, reader, held reader]
      | reading =>
          simp only
          cases isClosed : client.link.isClosed with
          | true => simp [IsQuiet, reader_endReader]
          | false =>
              cases taken : client.link.stream.takeArrived with
              | mk arrival stream =>
                  cases arrival with
                  | nothing => simp [IsQuiet, reader, isClosed, taken]
                  | ended => simp [IsQuiet, reader_endReader]
                  | failure reason => simp [IsQuiet, reader_endReader]
                  | data bytes =>
                      have less := Stream.extent_lt_of_takeArrived_eq_data taken
                      have bounded := (stable_extent stream.extent).consumeFrom
                        (client.link.decoder.feed bytes)
                        (show (client.modifyLink ({ · with stream })).link.stream.extent ≤
                          stream.extent from Nat.le_refl _)
                      simp only
                      exact inductionHypothesis (by omega) (isHeld_consume _ _ _)

/-- After each step of the caller the client is quiet. -/
theorem isQuiet_settle (client : Client) : (settle client).IsQuiet :=
  isQuiet_pump (Nat.lt_succ_self _) (isHeld_resume client)

end Client
end RouterApi
