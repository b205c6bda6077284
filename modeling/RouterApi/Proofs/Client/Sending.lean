import RouterApi.Proofs.Client.Receiving
import RouterApi.Proofs.Masking
import RouterApi.Proofs.Transcript
import RouterApi.Proofs.Wire.TagWords

/-!
# Sending of commands

A command whose sentence can be encoded is offered to the stream just once, before anything of its
reply is read, and an asynchronous one has its request registered under its tag by then. The
exception are words that are bytes: they can be encoded but not shown in the log, and the command is
given up for that.
-/

namespace RouterApi

/-! ## Words and streams -/

namespace Word

/-- Words are texts if none of them is bytes or any other value. -/
def AreTexts (words : List Word) : Prop :=
  ∀ word ∈ words, ∃ content, word = .text content

/-- Exactly texts can be shown. -/
theorem exists_maskedAll_iff
    {words : List Word} :
    (∃ shown, maskedAll words = .ok shown) ↔ AreTexts words := by
  induction words with
  | nil =>
      constructor
      · rintro - word ⟨⟩
      · intro
        exact ⟨[], rfl⟩
  | cons word rest inductionHypothesis =>
      rw [AreTexts, List.forall_mem_cons, ← AreTexts, ← inductionHypothesis, maskedAll_cons]
      cases word with
      | text content => cases maskedAll rest <;> simp [Value.asText, Except.bind, Except.map]
      | _ => simp [Value.asText, Except.bind]

/-- A tag can be shown. -/
theorem areTexts_tagged_iff
    {words : List Word}
    {client : Client} :
    AreTexts (client.tagged words) ↔ AreTexts words := by
  simp [AreTexts, Client.tagged, or_imp, forall_and]

end Word

namespace Stream

/-- A stream takes the next sentence that is written, unless its script says that this fails. -/
def TakesNext (stream : Stream) : Prop :=
  ∀ reason, stream.script.head? ≠ some (.failure reason)

theorem script_takeArrived (stream : Stream) : stream.takeArrived.2.script = stream.script := by
  unfold takeArrived
  split <;> rfl

theorem TakesNext.send
    {stream : Stream}
    (takesNext : stream.TakesNext)
    (data : Bytes) :
    (stream.send data).1 = .ok () := by
  unfold Stream.send
  split
  · rfl
  · rename_i reason rest script
    exact absurd (by rw [script]; rfl) (takesNext reason)
  · rfl

end Stream

/-- A dispatcher is unused if no request has been made, and no tag minted. -/
structure Dispatcher.IsUnused (dispatcher : Dispatcher) : Prop where
  requests_eq : dispatcher.requests = []
  pending_eq : dispatcher.pending = []
  minted_eq : dispatcher.minted = 0

/-- A connection is idle if its reader is not held up, its stream has been offered just the given
data, and the given script is all that is left of it. -/
structure Connection.IsIdle
    (offered : List Bytes)
    (script : List Answer)
    (link : Connection) : Prop where
  unheld : ∀ {number sentence later ending}, link.reader ≠ .stalled number sentence later ending
  offered_eq : link.stream.offered = offered
  script_eq : link.stream.script = script

namespace Client

variable {client : Client} {words : List Word} {data : Bytes}

/-- A sentence that can be encoded is written by an open client exactly if its words are texts. -/
theorem exists_write_iff
    (close : Client → Client)
    (isOpen : client.link.isClosed = false)
    (takesNext : client.link.stream.TakesNext)
    (encoded : Wire.encodeSentence client.link.decoder.encoding words = .ok data) :
    (∃ sent, write close words client = (.ok (), sent)) ↔ Word.AreTexts words := by
  rw [← Word.exists_maskedAll_iff]
  constructor
  · rintro ⟨sent, wrote⟩
    have written := written_write close words client
    rw [wrote] at written
    cases written with
    | sent _ _ masked => exact ⟨_, masked⟩
  · rintro ⟨shown, masked⟩
    have taken := takesNext.send data
    cases result : client.link.stream.send data with
    | mk outcome stream =>
        rw [result] at taken
        cases taken
        exact ⟨_, write_of_sent close encoded isOpen masked result⟩

/-- What a client has become by sending data: they are the last ones that the stream was offered,
nothing has been read, and the requests are as before. -/
structure IsSent
    (data : Bytes)
    (client sent : Client) : Prop where
  offered_eq : sent.link.stream.offered = client.link.stream.offered ++ [data]
  receives_eq : sent.link.stream.receives = client.link.stream.receives
  dispatcher_eq : sent.dispatcher = client.dispatcher

theorem isSent_of_write
    {close : Client → Client}
    {sent : Client}
    (encoded : Wire.encodeSentence client.link.decoder.encoding words = .ok data)
    (wrote : write close words client = (.ok (), sent)) :
    IsSent data client sent := by
  have written := written_write close words client
  rw [wrote] at written
  cases written with
  | @sent other shown stream encodedOther isOpen masked sent =>
      cases encoded.symm.trans encodedOther
      have offered := Stream.offered_send data client.link.stream
      have receives := receives_send data client.link.stream
      rw [sent] at offered receives
      exact ⟨offered, receives, rfl⟩

/-! ## Synchronous commands -/

/-- A synchronous command is run if its data are offered to the stream once in all, and only then is
its reply read. -/
structure IsRun
    (words : List Word)
    (data : Bytes)
    (client sent : Client) : Prop extends IsSent data client sent where
  run_eq : client.runSync words = readReply sent
  offered_run : (client.run words).2.link.stream.offered = client.link.stream.offered ++ [data]

theorem exists_isRun_iff
    (synchronous : client.link.isAsynchronous = false)
    (isOpen : client.link.isClosed = false)
    (takesNext : client.link.stream.TakesNext)
    (encoded : Wire.encodeSentence client.link.decoder.encoding words = .ok data) :
    (∃ sent, IsRun words data client sent) ↔ Word.AreTexts words := by
  have offered := offered_run synchronous words
  rw [offer_of_isOpen isOpen] at offered
  constructor
  · rintro ⟨sent, isRun⟩
    have payload : (Wire.payload? client.link.decoder.encoding words).toList = [data] :=
      List.append_cancel_left (offered.symm.trans isRun.offered_run)
    rw [Option.toList_eq_singleton_iff, Wire.payload?_eq_some_iff] at payload
    exact Word.exists_maskedAll_iff.mp payload.2
  · intro areTexts
    obtain ⟨sent, wrote⟩ := (exists_write_iff close isOpen takesNext encoded).mpr areTexts
    have payload := Wire.payload?_eq_some_iff.mpr
      ⟨encoded, Word.exists_maskedAll_iff.mpr areTexts⟩
    refine ⟨sent, isSent_of_write encoded wrote, ?_, ?_⟩
    · rw [runSync, wrote]
    · rw [offered, payload]
      rfl

/-! ## Asynchronous commands -/

/-- A command is under way if its data are the last ones that the stream was offered, and its
request is registered under the tag that was to be minted next. -/
structure IsUnderWay
    (words : List Word)
    (handler : Handler)
    (data : Bytes)
    (client : Client)
    (number : Nat)
    (sent : Client) : Prop where
  offered_eq : sent.link.stream.offered = client.link.stream.offered ++ [data]
  lookup?_eq : sent.lookup? client.nextTag = some number
  request?_eq : sent.request? number = some { tag := client.nextTag, words, handler }

theorem lookup?_enroll_self
    (words : List Word)
    (handler : Handler)
    (client : Client) :
    (client.enroll words handler).lookup? client.nextTag =
      some client.dispatcher.requests.length :=
  Assoc.get?_set_self _ _ _

/-- Only texts are submitted. -/
theorem areTexts_of_submit
    {close : Client → Client}
    {handler : Handler}
    {number : Nat}
    {after : Client}
    (orderly : client.IsOrderly)
    (isOpen : client.link.isClosed = false)
    (submitted : submit close words handler client = (.ok number, after)) :
    Word.AreTexts words := by
  rw [submit_of_free close words handler (orderly.working isOpen) orderly.lookup?_nextTag]
    at submitted
  have written := written_write close (client.tagged words) (client.enroll words handler)
  generalize write close (client.tagged words) (client.enroll words handler) = result
    at submitted written
  cases written with
  | sent encoded _ masked =>
      exact Word.areTexts_tagged_iff.mp (Word.exists_maskedAll_iff.mp ⟨_, masked⟩)
  | _ => cases submitted

/-- Texts that can be encoded with their tag are submitted. -/
theorem exists_submit_eq_ok
    (close : Client → Client)
    (orderly : client.IsOrderly)
    (isOpen : client.link.isClosed = false)
    (takesNext : client.link.stream.TakesNext)
    (handler : Handler)
    (encoded : Wire.encodeSentence client.link.decoder.encoding (client.tagged words) = .ok data)
    (areTexts : Word.AreTexts words) :
    ∃ number sent, submit close words handler client = (.ok number, sent) ∧
      IsUnderWay words handler data client number sent := by
  have writes : (∃ sent, write close (client.tagged words) (client.enroll words handler) =
      (.ok (), sent)) ↔ Word.AreTexts (client.tagged words) :=
    exists_write_iff close isOpen takesNext encoded
  obtain ⟨sent, wrote⟩ := writes.mpr (Word.areTexts_tagged_iff.mpr areTexts)
  have isSent : IsSent data (client.enroll words handler) sent := isSent_of_write encoded wrote
  rw [submit_of_free close words handler (orderly.working isOpen) orderly.lookup?_nextTag, wrote]
  refine ⟨client.dispatcher.requests.length, sent, rfl, isSent.offered_eq, ?_, ?_⟩
  · rw [Session.lookup?, isSent.dispatcher_eq]
    exact lookup?_enroll_self words handler client
  · rw [Session.request?, isSent.dispatcher_eq]
    exact request?_enlist_self words handler client

/-! ## Switching -/

/-- A client is uncommitted if its dispatcher is unused. Whatever arrives then, nothing is sent for
it. -/
structure IsUncommitted
    (offered : List Bytes)
    (script : List Answer)
    (client : Client) : Prop where
  isUnused : client.dispatcher.IsUnused
  isIdle : client.link.IsIdle offered script

theorem shuts_isUncommitted (offered : List Bytes) (script : List Answer) :
    Shuts (fun _ => False) (IsUncommitted offered script) where
  log _ _ _ uncommitted := ⟨uncommitted.isUnused, uncommitted.isIdle⟩
  receipt _ uncommitted := ⟨uncommitted.isUnused, uncommitted.isIdle⟩
  conclude _ unconcerned := unconcerned.elim
  queue unconcerned := unconcerned.elim
  entry uncommitted member := by
    rw [uncommitted.isUnused.pending_eq] at member
    contradiction
  cutOff _ uncommitted :=
    ⟨⟨uncommitted.isUnused.requests_eq, rfl, uncommitted.isUnused.minted_eq⟩, uncommitted.isIdle⟩
  closing _ uncommitted :=
    ⟨uncommitted.isUnused,
      ⟨uncommitted.isIdle.unheld, uncommitted.isIdle.offered_eq, uncommitted.isIdle.script_eq⟩⟩

/-- The background reader leaves an uncommitted client uncommitted. -/
theorem upholds_isUncommitted (offered : List Bytes) (script : List Answer) :
    Upholds (fun _ _ => False) (fun _ => True) (IsUncommitted offered script) where
  entry uncommitted member := (shuts_isUncommitted offered script).entry uncommitted member
  log := (shuts_isUncommitted offered script).log
  receipt := (shuts_isUncommitted offered script).receipt
  queue unowned := unowned.elim
  fold _ unowned := unowned.elim
  call _ unowned := unowned.elim
  mark unowned := unowned.elim
  unmatched _ _ uncommitted :=
    ⟨⟨uncommitted.isUnused.requests_eq, uncommitted.isUnused.pending_eq,
      uncommitted.isUnused.minted_eq⟩, uncommitted.isIdle⟩
  release _ unowned := unowned.elim
  cancel cancelling uncommitted := by
    obtain ⟨number, request, known, -⟩ := cancelling
    rw [Session.request?, Dispatcher.request?, uncommitted.isUnused.requests_eq] at known
    contradiction
  close := (shuts_isUncommitted offered script).shutDown
  giveUp givenUp uncommitted := by
    rwa [eq_of_giveUp givenUp]
  fits _ := trivial
  holdup uncommitted reader := absurd reader uncommitted.isIdle.unheld
  take _ uncommitted :=
    ⟨uncommitted.isUnused,
      ⟨uncommitted.isIdle.unheld,
        (Stream.offered_takeArrived _).trans uncommitted.isIdle.offered_eq,
        (Stream.script_takeArrived _).trans uncommitted.isIdle.script_eq⟩⟩
  idle _ uncommitted :=
    ⟨uncommitted.isUnused,
      ⟨nofun, uncommitted.isIdle.offered_eq, uncommitted.isIdle.script_eq⟩⟩
  hold _ _ unowned := unowned.elim
  endReader := (shuts_isUncommitted offered script).endReader fun _ uncommitted =>
    ⟨uncommitted.isUnused,
      ⟨nofun, uncommitted.isIdle.offered_eq, uncommitted.isIdle.script_eq⟩⟩

/-- What switching an open client leaves as it was: the stream is offered nothing, its script stays,
and the next tag is the same. -/
structure IsSwitched (client ready : Client) : Prop where
  switch_eq : client.switch = (.ok (), ready)
  offered_eq : ready.link.stream.offered = client.link.stream.offered
  script_eq : ready.link.stream.script = client.link.stream.script
  nextTag_eq : ready.nextTag = client.nextTag

variable {encoding : Value} {calls : List Call}

theorem IsFaithful.isSwitched_switch
    (faithful : client.IsFaithful encoding calls [])
    (isOpen : client.link.isClosed = false) :
    IsSwitched client client.switch.2 := by
  cases mode : client.link.isAsynchronous with
  | true =>
      have switch_eq : client.switch = (.ok (), client) := by
        simp [switch, mode]
      rw [switch_eq]
      exact ⟨switch_eq, rfl, rfl, rfl⟩
  | false =>
      have minted_eq := faithful.untagged mode
      have requests_eq : client.dispatcher.requests = [] := by
        rw [← List.length_eq_zero_iff, ← faithful.minted_eq, minted_eq]
      have pending_eq : client.dispatcher.pending = [] := by
        refine List.eq_nil_iff_forall_not_mem.mpr fun entry member => ?_
        have made := faithful.made member
        rw [requests_eq] at made
        exact Nat.not_lt_zero _ made
      have upholds :=
        upholds_isUncommitted client.link.stream.offered client.link.stream.script
      have engaged : IsUncommitted client.link.stream.offered client.link.stream.script
          (client.modifyLink ({ · with isAsynchronous := true, reader := .reading })) :=
        ⟨⟨requests_eq, pending_eq, minted_eq⟩, ⟨by rintro _ _ _ _ ⟨⟩, rfl, rfl⟩⟩
      have switched : IsUncommitted client.link.stream.offered client.link.stream.script
          client.switch.2 := by
        unfold switch
        rw [if_neg (by simp [mode]), if_neg (by simp [isOpen])]
        exact upholds.log _ _ _ (upholds.settle (upholds.consumeFrom trivial engaged))
      refine
        { switch_eq := Prod.ext (switch_of_isOpen mode isOpen).1 rfl
          offered_eq := switched.isIdle.offered_eq
          script_eq := switched.isIdle.script_eq
          nextTag_eq := ?_ }
      rw [nextTag, nextTag, switched.isUnused.minted_eq, minted_eq]

theorem IsSwitched.isUnderWay
    {ready sent : Client}
    {handler : Handler}
    {number : Nat}
    (isSwitched : IsSwitched client ready)
    (isUnderWay : IsUnderWay words handler data ready number sent) :
    IsUnderWay words handler data client number sent := by
  obtain ⟨offered_eq, lookup?_eq, request?_eq⟩ := isUnderWay
  rw [isSwitched.offered_eq] at offered_eq
  rw [isSwitched.nextTag_eq] at lookup?_eq request?_eq
  exact ⟨offered_eq, lookup?_eq, request?_eq⟩

/-- A command is issued if its sentence with the tag that is to be minted next can be encoded, and
the number of its request is returned, which is under way with just these data before the reader
goes on. -/
def IsIssued
    (words : List Word)
    (handler : Handler)
    (client : Client)
    (result : Except Error Nat × Client) : Prop :=
  ∃ data number sent,
    Wire.encodeSentence client.link.decoder.encoding (client.tagged words) = .ok data ∧
    result = (.ok number, settle sent) ∧ IsUnderWay words handler data client number sent

/-- A client that is open once it has been switched issues a command exactly if its words are texts
that can be encoded with its tag. -/
theorem isIssued_start_iff
    (faithful : client.IsFaithful encoding calls [])
    (isOpen : client.link.isClosed = false)
    (staysOpen : client.switch.2.link.isClosed = false)
    (takesNext : client.link.stream.TakesNext)
    (handler : Handler) :
    IsIssued words handler client (client.start words handler) ↔
      Word.AreTexts words ∧ ∃ longer,
        Wire.encodeSentence client.link.decoder.encoding (client.tagged words) = .ok longer := by
  have isSwitched := faithful.isSwitched_switch isOpen
  have switched : client.switch.2.IsFaithful encoding _ [] := faithful.perform .switch
  generalize client.switch.2 = ready at staysOpen isSwitched switched
  have start_eq : client.start words handler =
      ((submit close words handler ready).1, settle (submit close words handler ready).2) := by
    simp [start, isSwitched.switch_eq]
  constructor
  · rintro ⟨longer, number, sent, encoded, started, -⟩
    have succeeded : (submit close words handler ready).1 = .ok number :=
      congrArg Prod.fst (start_eq.symm.trans started)
    have areTexts :=
      areTexts_of_submit switched.toIsOrderly staysOpen (Prod.ext succeeded rfl)
    exact ⟨areTexts, longer, encoded⟩
  · rintro ⟨areTexts, longer, encoded⟩
    have takesAfter : ready.link.stream.TakesNext := by
      intro reason
      rw [isSwitched.script_eq]
      exact takesNext reason
    have encodedAfter : Wire.encodeSentence ready.link.decoder.encoding (ready.tagged words) =
        .ok longer := by
      rw [tagged, isSwitched.nextTag_eq, ← tagged, switched.hasEncoding.encoding_eq,
        ← faithful.hasEncoding.encoding_eq]
      exact encoded
    obtain ⟨number, sent, submitted, isUnderWay⟩ := exists_submit_eq_ok close
      switched.toIsOrderly staysOpen takesAfter handler encodedAfter areTexts
    refine ⟨longer, number, sent, encoded, ?_, isSwitched.isUnderWay isUnderWay⟩
    rw [start_eq, submitted]

/-- Texts can only be encoded in a character set, which has the letters of a tag as well. -/
theorem exists_encodeSentence_tagged_of_areTexts
    (encoded : Wire.encodeSentence client.link.decoder.encoding words = .ok data)
    (areTexts : Word.AreTexts words)
    (nonempty : words ≠ [])
    (fits : (Word.ofTag (.text client.nextTag)).length ≤ LengthPrefix.maximum) :
    ∃ longer,
      Wire.encodeSentence client.link.decoder.encoding (client.tagged words) = .ok longer := by
  cases isKnown : Encoding.charset client.link.decoder.encoding with
  | ok charset => exact exists_encodeSentence_tagged isKnown encoded fits
  | error error =>
      obtain ⟨layout, rfl, -, encodes⟩ := Wire.encodeSentence_eq_ok_iff.mp encoded
      generalize layout.contents = contents at encodes
      cases encodes with
      | nil => contradiction
      | @cons word _ _ _ written =>
          obtain ⟨content, rfl⟩ := areTexts word List.mem_cons_self
          simp [Wire.wordBytes, Encoding.encode, isKnown] at written

/-! ## The result -/

/-- An open client sends what can be encoded exactly if all words of it are texts. A synchronous
command is offered to the stream once, before its reply is read. An asynchronous one, on a client
that is still open when it has been switched, is offered once together with its tag, and its request
is registered under the tag. The tag can be encoded along with any texts, if it fits in a word. -/
theorem sends_iff_areTexts
    {origin : Client}
    {actions : List Action}
    (new : origin.IsNew)
    (lived : origin.live actions = client)
    (isOpen : client.link.isClosed = false)
    (takesNext : client.link.stream.TakesNext)
    (encoded : Wire.encodeSentence client.link.decoder.encoding words = .ok data) :
    (client.link.isAsynchronous = false →
      ((∃ sent, IsRun words data client sent) ↔ Word.AreTexts words)) ∧
    (client.switch.2.link.isClosed = false →
      (∀ onSentence onComplete,
        IsIssued words (.callbacks onSentence onComplete) client
            (client.runAsync words onSentence onComplete) ↔
          Word.AreTexts words ∧ ∃ longer, Wire.encodeSentence client.link.decoder.encoding
            (client.tagged words) = .ok longer) ∧
      ∀ queueSize,
        IsIssued words
            (.listener { capacity := .ofValue (queueSize.getD client.link.queueSize) }) client
            (client.listen words queueSize) ↔
          Word.AreTexts words ∧ ∃ longer, Wire.encodeSentence client.link.decoder.encoding
            (client.tagged words) = .ok longer) ∧
    (Word.AreTexts words → words ≠ [] →
      (Word.ofTag (.text client.nextTag)).length ≤ LengthPrefix.maximum →
      ∃ longer, Wire.encodeSentence client.link.decoder.encoding (client.tagged words) =
        .ok longer) := by
  have faithful := new.isFaithful.live actions
  rw [lived] at faithful
  refine ⟨?_, ?_, ?_⟩
  · intro synchronous
    exact exists_isRun_iff synchronous isOpen takesNext encoded
  · intro staysOpen
    refine ⟨?_, ?_⟩
    · intro onSentence onComplete
      exact isIssued_start_iff faithful isOpen staysOpen takesNext _
    · intro queueSize
      exact isIssued_start_iff faithful isOpen staysOpen takesNext _
  · exact exists_encodeSentence_tagged_of_areTexts encoded

/-- A command and its tagged variant are sent; with an attribute in bytes the command is not. -/
theorem sends_obliging :
    (∃ sent, IsRun [.text (literal "/a")] [2, 0x2F, 0x61, 0] obliging sent) ∧
      IsIssued [.text (literal "/a")] (.callbacks none none) obliging
        (obliging.runAsync [.text (literal "/a")] none none) ∧
      ¬ ∃ sent, IsRun [.text (literal "/a"), .bytes [0x3D, 0x61, 0x3D, 0x62]]
        [2, 0x2F, 0x61, 4, 0x3D, 0x61, 0x3D, 0x62, 0] obliging sent := by
  have new : obliging.IsNew := ⟨rfl, rfl, rfl, rfl, rfl, rfl⟩
  have lived : obliging.live [] = obliging := rfl
  have takesNext : obliging.link.stream.TakesNext := by
    rintro reason ⟨⟩
  have areTexts : Word.AreTexts [.text (literal "/a")] := by
    intro word member
    exact ⟨_, List.mem_singleton.mp member⟩
  have plain : Wire.encodeSentence obliging.link.decoder.encoding [.text (literal "/a")] =
      .ok [2, 0x2F, 0x61, 0] := rfl
  have mixed : Wire.encodeSentence obliging.link.decoder.encoding
      [.text (literal "/a"), .bytes [0x3D, 0x61, 0x3D, 0x62]] =
      .ok [2, 0x2F, 0x61, 4, 0x3D, 0x61, 0x3D, 0x62, 0] := rfl
  obtain ⟨running, issuing, tagging⟩ := sends_iff_areTexts new lived rfl takesNext plain
  obtain ⟨runningMixed, -⟩ := sends_iff_areTexts new lived rfl takesNext mixed
  refine ⟨(running rfl).mpr areTexts, ?_, ?_⟩
  · refine ((issuing rfl).1 none none).mpr ⟨areTexts, ?_⟩
    exact tagging areTexts (List.cons_ne_nil _ _) (by decide)
  · rw [runningMixed rfl]
    intro allTexts
    obtain ⟨content, isText⟩ := allTexts _ (List.mem_cons_of_mem _ List.mem_cons_self)
    cases isText

/-- Not everything that can be encoded is sent: bytes are refused before they reach the stream. -/
theorem not_forall_offered_run :
    ¬ ∀ (client : Client) (words : List Word) (data : Bytes), client.IsNew →
      client.link.stream.TakesNext →
      Wire.encodeSentence client.link.decoder.encoding words = .ok data →
      (client.run words).2.link.stream.offered = client.link.stream.offered ++ [data] := by
  intro sends
  have sent := sends obliging [.text (literal "/a"), .bytes [0x3D, 0x61, 0x3D, 0x62]]
    [2, 0x2F, 0x61, 4, 0x3D, 0x61, 0x3D, 0x62, 0] ⟨rfl, rfl, rfl, rfl, rfl, rfl⟩
    (by rintro reason ⟨⟩) rfl
  have refused : (obliging.run [.text (literal "/a"),
      .bytes [0x3D, 0x61, 0x3D, 0x62]]).2.link.stream.offered = [] := rfl
  rw [refused] at sent
  contradiction

end Client
end RouterApi
