import RouterApi.Proofs.Client.Closing
import RouterApi.Proofs.Client.Quiet
import RouterApi.Proofs.Client.Running
import RouterApi.Proofs.Client.Untouched
import RouterApi.Proofs.Wire.WordErrors

/-!
# Failed submissions

A command that cannot be submitted should leave no trace: its request should be out of the table,
out of reach for everything that follows, and the other entries as they were. This is so exactly if
the error is one of the API. An error about the words of the command leaves its request registered.
-/

namespace RouterApi
namespace Client

/-- A command is refused if the connection has failed or the tag that is minted next is taken. -/
def Refuses (client : Client) : Prop :=
  client.dispatcher.failure ≠ none ∨ client.lookup? client.nextTag ≠ none

/-- A command can be sent if its words and its tag can be encoded and shown. -/
def CanSend
    (words : List Word)
    (client : Client) : Prop :=
  (∃ data, Wire.encodeSentence client.link.decoder.encoding (client.tagged words) = .ok data) ∧
    ∃ shown, Word.maskedAll (client.tagged words) = .ok shown

/-- A failed submission leaves no trace if the request that was made for it is not in the table and
stays as it is for ever, so that none of its callbacks is called, and if the table has not changed
unless the connection was closed. -/
structure LeavesNoTrace (before after : Client) : Prop where
  unlisted : ∀ tag, (tag, before.dispatcher.requests.length) ∉ after.dispatcher.pending
  absent : before.lookup? before.nextTag = none → after.lookup? before.nextTag = none
  others : after.link.isClosed = false → after.dispatcher.pending = before.dispatcher.pending
  untouched : ∀ operations : List Operation,
    (∀ operation ∈ operations, operation.subject? ≠ some before.dispatcher.requests.length) →
      (after.performAll operations).request? before.dispatcher.requests.length =
        after.request? before.dispatcher.requests.length

variable {words : List Word} {handler : Handler} {client after : Client}

/-! ## Quiet clients -/

/-- A quiet client stays quiet when requests are added to it. -/
theorem IsQuiet.of_extends
    (quiet : client.IsQuiet)
    (link_eq : after.link = client.link)
    (request_eq : ∀ {number request}, client.request? number = some request →
      after.request? number = some request) :
    after.IsQuiet := by
  unfold IsQuiet at quiet ⊢
  rw [link_eq]
  cases reader : client.link.reader with
  | absent | ended => trivial
  | reading => simpa [reader] using quiet
  | stalled number sentence later ending =>
      simp only [reader] at quiet ⊢
      exact deliver_eq_stalled_of_same quiet request_eq (congrArg Connection.isClosed link_eq)

theorem request?_enlist_of_known
    (words : List Word)
    (handler : Handler)
    {number : Nat}
    {request : Request}
    (known : client.request? number = some request) :
    (client.enlist words handler).request? number = some request :=
  (request?_enlist_of_lt words handler (List.getElem?_eq_some_iff.mp known).1).trans known

theorem settle_enlist
    (words : List Word)
    (handler : Handler)
    (quiet : client.IsQuiet) :
    settle (client.enlist words handler) = client.enlist words handler :=
  settle_of_isQuiet (quiet.of_extends rfl (request?_enlist_of_known words handler))

theorem settle_enroll
    (words : List Word)
    (handler : Handler)
    (quiet : client.IsQuiet) :
    settle (client.enroll words handler) = client.enroll words handler :=
  settle_of_isQuiet (quiet.of_extends rfl (request?_enlist_of_known words handler))

/-! ## Refused commands -/

theorem IsRunning.unlisted
    (running : client.IsRunning)
    (tag : Text) :
    (tag, client.dispatcher.requests.length) ∉ client.dispatcher.pending :=
  fun member => Nat.lt_irrefl _ (running.listed _ member)

/-- The request of a refused command is out of reach. -/
theorem IsRunning.isOutOfReach_enlist
    (running : client.IsRunning)
    (words : List Word)
    (handler : Handler) :
    IsOutOfReach client.dispatcher.requests.length { tag := client.nextTag, words, handler }
      (client.enlist words handler) where
  known := request?_enlist_self words handler client
  unlisted := running.unlisted
  unheld reader := Nat.ne_of_lt (running.held reader)
  asynchronous := running.asynchronous

/-- A refused command leaves no trace. -/
theorem IsRunning.leavesNoTrace_enlist
    (running : client.IsRunning)
    (words : List Word)
    (handler : Handler) :
    LeavesNoTrace client (client.enlist words handler) where
  unlisted := running.unlisted
  absent := id
  others _ := rfl
  untouched _ elsewhere :=
    (running.isOutOfReach_enlist words handler).request?_performAll elsewhere

/-! ## Commands with bad words -/

/-- A command whose words are at fault stays registered. -/
theorem not_leavesNoTrace_enroll
    (words : List Word)
    (handler : Handler)
    (client : Client) :
    ¬ LeavesNoTrace client (client.enroll words handler) := by
  intro clean
  apply clean.unlisted client.nextTag
  exact Assoc.mem_of_get?_eq_some (Assoc.get?_set_self ..)

/-! ## Failed writes -/

section FailedWrite

variable
  {writing : Client}
  (running : client.IsRunning)
  (known : client.dispatcher.requests.length < writing.dispatcher.requests.length)
  (isOpen : writing.link.isClosed = false)
  (reader_eq : writing.link.reader = client.link.reader)
  (asynchronous : writing.link.isAsynchronous = true)

include running known isOpen reader_eq asynchronous

/-- The request of a command whose write failed is out of reach once the connection is closed. -/
theorem isOutOfReach_shutDown :
    ∃ request, IsOutOfReach client.dispatcher.requests.length request (shutDown writing) := by
  have cutOff := isCutOff_shutDown isOpen
  have stillKnown := (steady_known _).shutDown known
  have sameReader := (steady_reader client.link.reader).shutDown reader_eq
  refine ⟨_, List.getElem?_eq_getElem stillKnown, ?_, ?_,
    (steady_isAsynchronous true).shutDown asynchronous⟩
  · intro tag member
    rw [cutOff.empty] at member
    contradiction
  · intro held sentence later ending reader
    exact Nat.ne_of_lt (running.held (sameReader.symm.trans reader))

/-- A command whose write failed leaves no trace. -/
theorem leavesNoTrace_of_failed :
    LeavesNoTrace client (settle (Session.remove client.nextTag (close writing))) := by
  obtain ⟨request, away⟩ := isOutOfReach_shutDown running known isOpen reader_eq asynchronous
  have lasting := lasting_isOutOfReach client.dispatcher.requests.length request
  have close_eq : close writing = settle (shutDown writing) := by simp [close, isOpen]
  rw [close_eq]
  have cutOff := stable_isCutOff.settle
    (stable_isCutOff.remove client.nextTag (stable_isCutOff.settle (isCutOff_shutDown isOpen)))
  have away := lasting.settle (lasting.remove client.nextTag (lasting.settle away))
  exact
    { unlisted := away.unlisted
      absent := fun _ => by simp [Session.lookup?, cutOff.empty]
      others := fun stillOpen => by
        rw [cutOff.isClosed] at stillOpen
        contradiction
      untouched := fun _ elsewhere => away.request?_performAll elsewhere }

end FailedWrite

/-! ## Failed submissions -/

theorem settle_of_not_isApi
    (quiet : client.IsQuiet)
    {error : Error}
    (isApi : error.kind.isApi = false) :
    settle (if error.kind.isApi then (client.enroll words handler).remove client.nextTag
      else client.enroll words handler) = client.enroll words handler := by
  rw [isApi]
  exact settle_enroll words handler quiet

/-- A failed submission on an open asynchronous connection leaves no trace exactly if its error is
one of the API, and it fails with such an error exactly if the command is refused, or if its words
are in order, so that the write failed. -/
theorem leavesNoTrace_start_iff
    (isOpen : client.link.isClosed = false)
    (running : client.IsRunning)
    (quiet : client.IsQuiet)
    {error : Error}
    (raised : client.start words handler = (.error error, after)) :
    (LeavesNoTrace client after ↔ error.kind.isApi = true) ∧
      (error.kind.isApi = true ↔ client.Refuses ∨ client.CanSend words) := by
  rw [start_of_isAsynchronous words handler running.asynchronous] at raised
  by_cases refuses : client.Refuses
  · obtain ⟨reason, isApi, submitted⟩ := submit_of_refused close words handler refuses
    rw [submitted, settle_enlist words handler quiet] at raised
    cases raised
    exact ⟨⟨fun _ => isApi, fun _ => running.leavesNoTrace_enlist words handler⟩,
      ⟨fun _ => .inl refuses, fun _ => isApi⟩⟩
  · obtain ⟨working, free⟩ := not_or.mp refuses
    have working := Decidable.not_not.mp working
    have free := Decidable.not_not.mp free
    rw [submit_of_free close words handler working free] at raised
    have written := written_write close (client.tagged words) (client.enroll words handler)
    generalize write close (client.tagged words) (client.enroll words handler) = result
      at written raised
    cases written with
    | @unencoded reason encoded =>
        have isApi := Wire.isApi_of_encodeSentence_eq_error encoded
        have cannotSend : ¬ client.CanSend words := by
          rintro ⟨⟨data, canEncode⟩, -⟩
          cases encoded.symm.trans canEncode
        cases raised
        simp only
        rw [settle_of_not_isApi quiet isApi]
        simp [isApi, not_leavesNoTrace_enroll, refuses, cannotSend]
    | refused encoded isClosed => cases isOpen.symm.trans isClosed
    | @unshown data reason encoded stillOpen masked =>
        have isApi := Word.isApi_of_maskedAll_eq_error masked
        have cannotSend : ¬ client.CanSend words := by
          rintro ⟨-, shown, canShow⟩
          cases masked.symm.trans canShow
        cases raised
        simp only
        rw [settle_of_not_isApi quiet isApi]
        simp [isApi, not_leavesNoTrace_enroll, refuses, cannotSend]
    | sent => cases raised
    | @failed data shown reason stream encoded stillOpen masked failed =>
        have canSend : client.CanSend words := ⟨⟨data, encoded⟩, shown, masked⟩
        have grown : client.dispatcher.requests.length <
            (((client.enroll words handler).showing shown).modifyLink
              ({ · with stream })).dispatcher.requests.length :=
          Nat.lt_of_lt_of_eq (Nat.lt_succ_self _) (length_enroll words handler client).symm
        have clean := leavesNoTrace_of_failed running grown isOpen rfl running.asynchronous
        cases raised
        exact ⟨⟨fun _ => rfl, fun _ => clean⟩, ⟨fun _ => .inr canSend, fun _ => rfl⟩⟩

/-- An open asynchronous connection on which nothing has happened. -/
def idle : Client where
  link :=
    { stream := {}
      secure := .bool false
      cleartext := .bool false
      queueSize := .int 0
      decoder := { encoding := .text (literal "utf-8") }
      isAsynchronous := true
      reader := .reading }

theorem isRunning_idle : idle.IsRunning :=
  ⟨rfl, by simp [idle], nofun⟩

theorem isQuiet_idle : idle.IsQuiet :=
  ⟨rfl, rfl⟩

/-- The request of a command with an empty word stays registered. -/
theorem start_emptyWord :
    idle.start [.text (literal "/x"), .text []] (.callbacks none none) =
      (.error .emptyWord, idle.enroll [.text (literal "/x"), .text []] (.callbacks none none)) := by
  have submitted :
      submit close [.text (literal "/x"), .text []] (.callbacks none none) idle =
        (.error .emptyWord,
          idle.enroll [.text (literal "/x"), .text []] (.callbacks none none)) := rfl
  rw [start_of_isAsynchronous _ _ rfl, submitted, settle_enroll _ _ isQuiet_idle]

theorem leavesNoTrace_idle_iff :
    (LeavesNoTrace idle (idle.enroll [.text (literal "/x"), .text []] (.callbacks none none)) ↔
      Error.emptyWord.kind.isApi = true) ∧
      (Error.emptyWord.kind.isApi = true ↔
        idle.Refuses ∨ idle.CanSend [.text (literal "/x"), .text []]) :=
  leavesNoTrace_start_iff rfl isRunning_idle isQuiet_idle start_emptyWord

theorem not_leavesNoTrace_of_start_eq_error :
    ¬ ∀ (client after : Client) (words : List Word) (handler : Handler) (error : Error),
      client.link.isClosed = false → client.IsRunning → client.IsQuiet →
      client.start words handler = (.error error, after) → LeavesNoTrace client after := by
  intro clean
  exact not_leavesNoTrace_enroll _ _ idle
    (clean idle _ _ _ .emptyWord rfl isRunning_idle isQuiet_idle start_emptyWord)

end Client
end RouterApi
