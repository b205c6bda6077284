import RouterApi.Client.Reader
import RouterApi.Session.Detached
import RouterApi.Proofs.Client.Submission
import RouterApi.Proofs.Client.Tags
import RouterApi.Proofs.Isolation.Sparing

/-!
# Cancellation by callbacks

A callback that runs on the background reader may cancel a command. As long as the cancelling
command can be written, this only registers one more request, under a newly minted tag. A session
without a transport notes the cancellation and nothing else.
-/

namespace RouterApi

/-- A session without a transport is always discreet. -/
theorem Detached.isDiscreet_host : Detached.host.IsDiscreet fun _ _ => True where
  fewer := id
  part _ := id
  cancel _ _ _ := ⟨_, _, rfl, trivial, id, id, .inl, id, rfl, rfl⟩

/-- A stream that has no failure in its script never fails to write. -/
theorem Stream.send_of_no_failure
    {stream : Stream}
    (working : ∀ reason, Answer.failure reason ∉ stream.script)
    (data : Bytes) :
    ∃ after, stream.send data = (.ok (), after) ∧
      ∀ reason, Answer.failure reason ∉ after.script := by
  unfold send
  cases script : stream.script with
  | nil => exact ⟨_, rfl, by simp⟩
  | cons answer rest =>
      rw [script] at working
      cases answer with
      | failure reason => exact absurd List.mem_cons_self (working reason)
      | chunks arriving =>
          exact ⟨_, rfl, fun reason member => working reason (List.mem_cons_of_mem _ member)⟩

namespace Client

/-- The sentence that cancels the command of a tag, under a tag of its own. -/
def cancelSentence (tag own : Text) : List Word :=
  cancelCommand (.text tag) ++ [.text (Word.ofTag (.text own))]

/-- A client can cancel some number of commands if it is open, no write fails, the tags to be minted
are new, and all commands that may have to be cancelled have tags that can be written. -/
structure CanCancel
    (count : Nat)
    (client : Client) : Prop where
  isOpen : client.link.isClosed = false
  working : client.dispatcher.failure = none
  sending : ∀ reason, Answer.failure reason ∉ client.link.stream.script
  fresh : ∀ {number request}, client.request? number = some request →
    ∀ {later}, client.dispatcher.minted < later → request.tag ≠ Text.ofNat later
  writable : ∀ {number request own}, client.request? number = some request →
    client.dispatcher.minted < own → own ≤ client.dispatcher.minted + count →
    ∃ data, Wire.encodeSentence client.link.decoder.encoding
      (cancelSentence request.tag (Text.ofNat own)) = .ok data
  writableLater : ∀ {later own},
    client.dispatcher.minted < later → later ≤ client.dispatcher.minted + count →
    client.dispatcher.minted < own → own ≤ client.dispatcher.minted + count →
    ∃ data, Wire.encodeSentence client.link.decoder.encoding
      (cancelSentence (Text.ofNat later) (Text.ofNat own)) = .ok data

theorem CanCancel.fewer
    {count : Nat}
    {client : Client}
    (able : CanCancel (count + 1) client) :
    CanCancel count client where
  isOpen := able.isOpen
  working := able.working
  sending := able.sending
  fresh := able.fresh
  writable known above below := able.writable known above (by omega)
  writableLater above below ownAbove ownBelow :=
    able.writableLater above (by omega) ownAbove (by omega)

theorem CanCancel.part
    {count : Nat}
    {part whole : Client}
    (isPart : part.IsPartOf whole)
    (able : CanCancel count whole) :
    CanCancel count part where
  isOpen := by rw [isPart.link_eq]; exact able.isOpen
  working := isPart.failure_eq.trans able.working
  sending := by rw [isPart.link_eq]; exact able.sending
  fresh found later above := by
    obtain ⟨_, _, original, tag_eq⟩ := isPart.known found
    rw [isPart.minted_eq] at above
    exact tag_eq ▸ able.fresh original above
  writable found above below := by
    obtain ⟨_, _, original, tag_eq⟩ := isPart.known found
    rw [isPart.minted_eq] at above below
    rw [isPart.link_eq, ← tag_eq]
    exact able.writable original above below
  writableLater := by
    rw [isPart.minted_eq, isPart.link_eq]
    exact able.writableLater

/-- The words of a cancelling command can be shown. -/
theorem maskedAll_cancelSentence (tag own : Text) :
    ∃ shown, Word.maskedAll (cancelSentence tag own) = .ok shown :=
  ⟨_, rfl⟩

/-- The connection after the cancelling command of a tag has been written. -/
def cancelling
    (tag : Text)
    (shown : List Text)
    (stream : Stream)
    (client : Client) : Client :=
  ((client.enroll (cancelCommand (.text tag)) (.callbacks none none)).log .debug .client
    (literal ">>> " ++ Text.bracketed (shown.map Text.quoted))).modifyLink ({ · with stream })

variable {count : Nat} {client : Client}

/-- The tag that is minted next is that of no request. -/
theorem CanCancel.lookup?_nextTag
    (able : CanCancel count client)
    (sound : client.IsSound) :
    client.lookup? client.nextTag = none := by
  cases found : client.lookup? client.nextTag with
  | none => rfl
  | some number =>
      obtain ⟨request, known, tag_eq⟩ := sound.owned found
      exact absurd tag_eq (able.fresh known (Nat.lt_succ_self _))

/-- The cancelling command for a known request is written. -/
theorem CanCancel.cancel_eq
    (able : CanCancel (count + 1) client)
    (sound : client.IsSound)
    {number : Nat}
    {request : Request}
    (known : client.request? number = some request) :
    ∃ shown stream, (∀ reason, Answer.failure reason ∉ stream.script) ∧
      readerHost.cancel request.tag client =
        (.ok client.nextTag, client.cancelling request.tag shown stream) := by
  obtain ⟨data, encoded⟩ := able.writable known (Nat.lt_succ_self _) (by omega)
  obtain ⟨shown, masked⟩ := maskedAll_cancelSentence request.tag client.nextTag
  obtain ⟨stream, sent, sending⟩ := Stream.send_of_no_failure able.sending data
  refine ⟨shown, stream, sending, ?_⟩
  have free := (able.fewer).lookup?_nextTag sound
  have written : write shutDown (client.tagged (cancelCommand (.text request.tag)))
      (client.enroll (cancelCommand (.text request.tag)) (.callbacks none none)) =
        (.ok (), client.cancelling request.tag shown stream) :=
    write_of_sent shutDown encoded able.isOpen masked sent
  have submitted : submit shutDown (cancelCommand (.text request.tag)) (.callbacks none none)
      client = (.ok client.dispatcher.requests.length,
        client.cancelling request.tag shown stream) := by
    rw [submit_of_free shutDown _ _ able.working free, written]
  have numbered : (client.cancelling request.tag shown stream).request?
      client.dispatcher.requests.length = some _ :=
    request?_enlist_self (cancelCommand (.text request.tag)) (.callbacks none none) client
  simp [readerHost, submitted, numbered]

/-- Cancelling a command only adds a request under a new tag. -/
theorem CanCancel.extends_cancelling
    (able : CanCancel (count + 1) client)
    (sound : client.IsSound)
    (tag : Text)
    (shown : List Text)
    (stream : Stream) :
    Session.Extends client (client.cancelling tag shown stream) where
  request_eq found :=
    (request?_enlist_of_lt _ _ (List.getElem?_eq_some_iff.mp found).1).trans found
  lookup_eq {other number} found := by
    have different : other ≠ client.nextTag := by
      rintro rfl
      rw [able.fewer.lookup?_nextTag sound] at found
      contradiction
    exact (Assoc.get?_set_of_ne different ..).trans found
  entry {other number} found := by
    by_cases same : other = client.nextTag
    · subst same
      have number_eq : some client.dispatcher.requests.length = some number :=
        (Assoc.get?_set_self ..).symm.trans found
      obtain rfl := Option.some.inj number_eq
      refine .inr ⟨?_, ?_, ?_⟩
      · simp [Session.request?, Dispatcher.request?]
      · exact fun known => able.fresh known (Nat.lt_succ_self _)
      · exact ⟨_, request?_enlist_self _ _ client, rfl, rfl⟩
    · exact .inl ((Assoc.get?_set_of_ne same ..).symm.trans found)
  distinct distinct := Assoc.nodup_keys_set distinct _ _
  calls_eq := rfl
  unmatched_eq := rfl

/-- After a cancellation, a client can cancel one command less. -/
theorem CanCancel.cancelling
    (able : CanCancel (count + 1) client)
    (tag : Text)
    (shown : List Text)
    {stream : Stream}
    (sending : ∀ reason, Answer.failure reason ∉ stream.script) :
    CanCancel count (client.cancelling tag shown stream) where
  isOpen := able.isOpen
  working := able.working
  sending := sending
  fresh {number request} found later above := by
    have above : client.dispatcher.minted + 1 < later := above
    rcases request?_enlist_eq_some found with known | ⟨-, rfl⟩
    · exact able.fresh known (by omega)
    · intro same
      have number_eq := Text.ofNat_injective same
      omega
  writable {number request own} found above below := by
    have above : client.dispatcher.minted + 1 < own := above
    have below : own ≤ client.dispatcher.minted + 1 + count := below
    rcases request?_enlist_eq_some found with known | ⟨-, rfl⟩
    · exact able.writable known (by omega) (by omega)
    · exact able.writableLater (Nat.lt_succ_self _) (by omega) (by omega) (by omega)
  writableLater {later own} above below ownAbove ownBelow := by
    have above : client.dispatcher.minted + 1 < later := above
    have below : later ≤ client.dispatcher.minted + 1 + count := below
    have ownAbove : client.dispatcher.minted + 1 < own := ownAbove
    have ownBelow : own ≤ client.dispatcher.minted + 1 + count := ownBelow
    exact able.writableLater (by omega) (by omega) (by omega) (by omega)

/-- The background reader is discreet while it can cancel commands. -/
theorem isDiscreet_readerHost : readerHost.IsDiscreet CanCancel where
  fewer := CanCancel.fewer
  part := CanCancel.part
  cancel {count client number request} sound able known := by
    obtain ⟨shown, stream, sending, accepted⟩ := able.cancel_eq sound known
    exact ⟨_, _, accepted, able.cancelling request.tag shown sending,
      able.extends_cancelling sound request.tag shown stream⟩

end Client
end RouterApi
