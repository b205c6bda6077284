import RouterApi.Proofs.Client.Ending

/-!
# Fatal sentences

A fatal sentence without a tag, or with the tag of a registered request, ends the reader: all other
outstanding requests are completed with it, and the connection is closed. With the tag of no
registered request it is only counted, like any other sentence that belongs to no request, and the
reader goes on.
-/

namespace RouterApi
namespace Session

variable {Λ : Type} {host : Host Λ} {session : Session Λ} {sentence : Sentence}

/-- A sentence is heeded if it has no tag, or the tag of a registered request. -/
def Heeds
    (sentence : Sentence)
    (session : Session Λ) : Prop :=
  ∀ tag, sentence.tag = some tag → session.lookup? tag ≠ none

/-- A fatal sentence retires its request, and is raised. -/
theorem feed_of_fatal
    (host : Host Λ)
    (tag : Text)
    (number : Nat)
    (fatal : sentence.control = .fatal)
    (session : Session Λ) :
    session.feed host tag number sentence =
      (.raised (.reported (.fatal sentence) none),
        (session.modify number fun request =>
          { request with reply := request.reply.process sentence }).retire host tag number) := by
  rw [feed_of_terminal host (isTerminal_of_fatal fatal), if_pos fatal]

theorem dispatch_of_untagged_fatal
    (host : Host Λ)
    (fatal : sentence.control = .fatal)
    (untagged : sentence.tag = none)
    (session : Session Λ) :
    session.dispatch host sentence = (.raised (.reported (.fatal sentence) none), session) := by
  simp [dispatch, untagged, fatal]

/-- A fatal sentence is raised exactly if it is heeded. -/
theorem dispatch_of_fatal_iff
    (host : Host Λ)
    (fatal : sentence.control = .fatal)
    (session : Session Λ) :
    (session.dispatch host sentence).1 = .raised (.reported (.fatal sentence) none) ↔
      session.Heeds sentence := by
  cases tagged : sentence.tag with
  | none =>
      rw [dispatch_of_untagged_fatal host fatal tagged]
      simp [Heeds, tagged]
  | some tag =>
      cases found : session.lookup? tag with
      | none =>
          rw [dispatch_of_lookup?_eq_none host tagged found]
          simp [Heeds, tagged, found]
      | some number =>
          rw [dispatch_of_lookup?_eq_some host tagged found, feed_of_fatal host tag number fatal]
          simp [Heeds, tagged, found]

end Session

namespace Client

variable {client : Client} {sentence : Sentence} {number : Nat}

/-- Whether completing the request that a sentence is addressed to makes its callback close the
connection. -/
structure ClosesOn
    (sentence : Sentence)
    (client : Client) : Prop where
  isOpen : client.link.isClosed = false
  closes : ∃ tag number request, sentence.tag = some tag ∧ client.lookup? tag = some number ∧
    client.request? number = some request ∧ request.isDone = false ∧ request.handler.closes = true

/-- A bystander of a sentence is an outstanding request that it is not addressed to. -/
structure IsBystander
    (number : Nat)
    (sentence : Sentence)
    (client : Client) : Prop extends client.IsOutstanding number where
  unaddressed : ∀ tag, sentence.tag = some tag → client.lookup? tag ≠ some number

/-- A sentence has ended a connection if it has ended the reader, the connection is closed, no
request is outstanding and none can be registered any more, and every bystander has been completed
with it, unless the request that it was addressed to closed the connection first. -/
structure IsEndedBy
    (sentence : Sentence)
    (client after : Client) : Prop where
  joined : after.join = some (.reported (.fatal sentence) none)
  cutOff : after.IsCutOff
  completed : ∀ {number}, client.IsBystander number sentence → ¬ client.ClosesOn sentence →
    after.outcome? number = some (some (some (.reported (.fatal sentence) none)))
  precluded : ∀ {number}, client.IsBystander number sentence → client.ClosesOn sentence →
    after.outcome? number = some (some (some (.closed .byCaller)))

/-- The client after the reader has noted a sentence in the log. -/
def noting
    (sentence : Sentence)
    (client : Client) : Client :=
  client.log .debug .request (literal "<<< " ++ sentence.summary)

theorem consume_of_raised
    {words : List Text}
    {error : Error}
    {after : Client}
    (raised : (client.noting (.ofTexts words)).dispatch readerHost (.ofTexts words) =
      (.raised error, after))
    (later : List (List Text))
    (ending : Wire.Decoder.Ending) :
    consume (words :: later) ending client = endReader error after := by
  rw [consume]
  simp only [noting] at raised
  simp only [raised]

theorem consume_of_handled
    {words : List Text}
    {after : Client}
    (handled : (client.noting (.ofTexts words)).dispatch readerHost (.ofTexts words) =
      (.handled, after))
    (later : List (List Text))
    (ending : Wire.Decoder.Ending) :
    consume (words :: later) ending client = consume later ending after := by
  rw [consume]
  simp only [noting] at handled
  simp only [handled]

/-- The client after a sentence has been folded into the reply of its request, and the request taken
out of the table. -/
def folding
    (tag : Text)
    (number : Nat)
    (sentence : Sentence)
    (client : Client) : Client :=
  ((client.noting sentence).modify number fun request =>
    { request with reply := request.reply.process sentence }).remove tag

theorem request?_folding
    (tag : Text)
    (number : Nat)
    (sentence : Sentence)
    (client : Client) :
    (client.folding tag number sentence).request? number =
      (client.request? number).map fun request =>
        { request with reply := request.reply.process sentence } := by
  rw [folding, Session.request?_remove, Session.request?_modify, if_pos rfl]
  rfl

/-- A bystander is still outstanding once the request of a sentence has been taken out of the table.
-/
theorem IsBystander.folding
    {tag : Text}
    (bystander : client.IsBystander number sentence)
    (tagged : sentence.tag = some tag)
    (addressed : Nat) :
    (client.folding tag addressed sentence).IsOutstanding number := by
  obtain ⟨other, registered⟩ := bystander.registered
  have unaddressed := bystander.unaddressed tag tagged
  have different : other ≠ tag := fun same => unaddressed (same ▸ registered)
  constructor
  · refine ⟨other, ?_⟩
    rw [Client.folding, Session.lookup?_remove_of_ne _ different, Session.lookup?_modify]
    exact registered
  · show ((client.noting sentence).modify addressed fun request =>
      { request with reply := request.reply.process sentence }).outcome? number = some none
    rw [Session.outcome?_modify]
    · exact bystander.incomplete
    · exact fun _ => rfl

/-- Retiring the request of a sentence completes it, if there is one. -/
theorem retire_eq
    (tag : Text)
    (number : Nat)
    (sentence : Sentence)
    (client : Client) :
    ∃ error, ((client.noting sentence).modify number fun request =>
        { request with reply := request.reply.process sentence }).retire readerHost tag number =
      (client.folding tag number sentence).finishLogged shutDown tag number error := by
  unfold Session.retire
  cases known : (client.folding tag number sentence).request? number with
  | none =>
      simp only [folding] at known
      exact ⟨none, by simp only [folding, known, Session.finishLogged, Session.finish]⟩
  | some request =>
      simp only [folding] at known
      exact ⟨request.finalError, by simp only [folding, known]; rfl⟩

/-- A closed connection is not closed again. -/
theorem shutDown_of_isClosed (isClosed : client.link.isClosed = true) :
    client.shutDown = client := by
  rw [shutDown, if_pos isClosed]

/-- A bystander stays outstanding when a sentence retires its request, unless that closes the
connection. -/
theorem IsBystander.isOutstanding_finish
    {tag : Text}
    {addressed : Nat}
    (bystander : client.IsBystander number sentence)
    (tagged : sentence.tag = some tag)
    (found : client.lookup? tag = some addressed)
    (keepsOpen : ¬ client.ClosesOn sentence)
    (error : Option Error) :
    ((client.folding tag addressed sentence).finishLogged shutDown tag addressed
      error).IsOutstanding number := by
  have outstanding := bystander.folding tagged addressed
  have different : addressed ≠ number :=
    fun same => bystander.unaddressed tag tagged (same ▸ found)
  have finished : ((client.folding tag addressed sentence).finish shutDown addressed
      error).2.IsOutstanding number := by
    by_cases closing : ∃ request, (client.folding tag addressed sentence).request? addressed =
        some request ∧ request.isDone = false ∧ request.handler.closes = true
    · obtain ⟨request, known, incomplete, closes⟩ := closing
      rw [Session.finish_of_closes known incomplete closes error]
      rw [request?_folding, Option.map_eq_some_iff] at known
      obtain ⟨earlier, earlierKnown, rfl⟩ := known
      -- The callback closes the connection, so that is closed already.
      have isClosed : client.link.isClosed = true := by
        refine Bool.not_eq_false _ |>.mp fun isOpen => keepsOpen ⟨isOpen, ?_⟩
        exact ⟨tag, addressed, earlier, tagged, found, earlierKnown, incomplete, closes⟩
      rw [shutDown_of_isClosed (by rw [Session.link_conclude]; exact isClosed)]
      exact outstanding.conclude different _ error
    · refine outstanding.finish different ?_ error
      intro request known incomplete
      exact Bool.eq_false_iff.mpr fun closes => closing ⟨request, known, incomplete, closes⟩
  rcases Session.finishLogged_eq shutDown tag addressed error
      (client.folding tag addressed sentence) with same | same
  · rwa [same]
  · rw [same]
    exact ⟨finished.registered, finished.incomplete⟩

/-- If it does close the connection, that completes the bystanders. -/
theorem IsBystander.outcome?_finish
    {tag : Text}
    (bystander : client.IsBystander number sentence)
    (closing : client.ClosesOn sentence)
    {addressed : Nat}
    (tagged : sentence.tag = some tag)
    (found : client.lookup? tag = some addressed)
    (error : Option Error) :
    ((client.folding tag addressed sentence).finishLogged shutDown tag addressed error).outcome?
        number = some (some (some (.closed .byCaller))) ∧
      ((client.folding tag addressed sentence).finishLogged shutDown tag addressed
        error).dispatcher.pending = [] := by
  obtain ⟨isOpen, own, other, earlier, ownTagged, ownFound, known, incomplete, closes⟩ := closing
  cases tagged.symm.trans ownTagged
  cases found.symm.trans ownFound
  have folded : (client.folding tag addressed sentence).request? addressed =
      some { earlier with reply := earlier.reply.process sentence } := by
    rw [request?_folding, known, Option.map_some]
  have different : addressed ≠ number :=
    fun same => bystander.unaddressed tag tagged (same ▸ found)
  have concluded := (bystander.folding tagged addressed).conclude different
    { earlier with reply := earlier.reply.process sentence } error
  have stillOpen : ((client.folding tag addressed sentence).conclude addressed
      { earlier with reply := earlier.reply.process sentence } error).link.isClosed = false := by
    rw [Session.link_conclude]
    exact isOpen
  rw [Session.finishLogged, Session.finish_of_closes folded incomplete closes error]
  constructor
  · exact (outcome?_shutDown stillOpen number).trans (concluded.outcome?_eq _)
  · exact (isCutOff_shutDown stillOpen).empty

/-! ## The end of the connection -/

/-- A heeded fatal sentence is raised. The bystanders are outstanding then, unless they have been
completed because its request closed the connection. -/
theorem dispatch_of_heeded
    (fatal : sentence.control = .fatal)
    (heeded : client.Heeds sentence) :
    ∃ after, (client.noting sentence).dispatch readerHost sentence =
        (.raised (.reported (.fatal sentence) none), after) ∧
      (∀ {number}, client.IsBystander number sentence → ¬ client.ClosesOn sentence →
        after.IsOutstanding number) ∧
      ∀ {number}, client.IsBystander number sentence → client.ClosesOn sentence →
        after.outcome? number = some (some (some (.closed .byCaller))) ∧
          after.dispatcher.pending = [] := by
  cases tagged : sentence.tag with
  | none =>
      refine ⟨_, Session.dispatch_of_untagged_fatal readerHost fatal tagged _, ?_, ?_⟩
      · rintro number bystander -
        exact ⟨bystander.registered, bystander.incomplete⟩
      · rintro number - ⟨-, tag, -, -, isTagged, -⟩
        rw [tagged] at isTagged
        contradiction
  | some tag =>
      obtain ⟨addressed, found⟩ := Option.ne_none_iff_exists'.mp (heeded tag tagged)
      obtain ⟨error, retired⟩ := retire_eq tag addressed sentence client
      have stillFound : (client.noting sentence).lookup? tag = some addressed := found
      have dispatched := (Session.dispatch_of_lookup?_eq_some readerHost tagged stillFound).trans
        (Session.feed_of_fatal readerHost tag addressed fatal (client.noting sentence))
      rw [retired] at dispatched
      refine ⟨_, dispatched, ?_, ?_⟩
      · intro number bystander keepsOpen
        exact bystander.isOutstanding_finish tagged found keepsOpen error
      · intro number bystander closing
        exact bystander.outcome?_finish closing tagged found error

/-- A heeded fatal sentence ends the connection, whatever the decoder holds after it. -/
theorem isEndedBy_consume
    {words : List Text}
    (fatal : (Sentence.ofTexts words).control = .fatal)
    (heeded : client.Heeds (.ofTexts words))
    (later : List (List Text))
    (ending : Wire.Decoder.Ending) :
    IsEndedBy (.ofTexts words) client (consume (words :: later) ending client) := by
  obtain ⟨after, raised, outstanding, precluded⟩ := dispatch_of_heeded fatal heeded
  rw [consume_of_raised raised later ending]
  constructor
  · rw [join, reader_endReader]
  · exact isCutOff_endReader _ after
  · intro number bystander keepsOpen
    exact (outcome?_endReader _ after number).trans
      ((outstanding bystander keepsOpen).outcome?_eq _)
  · intro number bystander closing
    obtain ⟨outcome, empty⟩ := precluded bystander closing
    rw [outcome?_endReader, if_neg (by simp [Session.listed, empty]), outcome]

/-- A fatal sentence ends the connection exactly if it is heeded. Then it is raised by the
dispatcher of any session, it ends the reader, every bystander is completed with it, and the
connection is closed, whatever follows it and however the stream goes on. Otherwise, which takes a
tag of no registered request, it is only counted, and the reader goes on. -/
theorem fatal_ends_connection_iff_heeded
    {words : List Text}
    (fatal : (Sentence.ofTexts words).control = .fatal)
    (later : List (List Text))
    (ending : Wire.Decoder.Ending)
    (client : Client) :
    (∀ {Λ : Type} (host : Host Λ) (session : Session Λ),
      (session.dispatch host (.ofTexts words)).1 =
          .raised (.reported (.fatal (.ofTexts words)) none) ↔
        session.Heeds (.ofTexts words)) ∧
    (client.Heeds (.ofTexts words) →
      IsEndedBy (.ofTexts words) client (consume (words :: later) ending client)) ∧
    (¬ client.Heeds (.ofTexts words) →
      ∃ tag, (Sentence.ofTexts words).tag = some tag ∧ client.lookup? tag = none ∧
        consume (words :: later) ending client =
          consume later ending
            ((client.noting (.ofTexts words)).unmatched (.unregistered tag) (.ofTexts words))) := by
  refine ⟨fun host session => Session.dispatch_of_fatal_iff host fatal session, ?_, ?_⟩
  · intro heeded
    exact isEndedBy_consume fatal heeded later ending
  · intro unheeded
    simp only [Session.Heeds, not_forall, not_not] at unheeded
    obtain ⟨tag, tagged, absent⟩ := unheeded
    refine ⟨tag, tagged, absent, ?_⟩
    exact consume_of_handled (Session.dispatch_of_lookup?_eq_none readerHost tagged absent) later
      ending

/-- An asynchronous client with two outstanding commands. -/
def twoCommands : Client where
  dispatcher :=
    { minted := 2
      requests :=
        [{ tag := literal "1", words := [.text (literal "/x")], handler := .callbacks none none },
         { tag := literal "2", words := [.text (literal "/y")], handler := .callbacks none none }]
      pending := [(literal "1", 0), (literal "2", 1)] }
  link :=
    { stream := {}
      secure := .bool false
      cleartext := .bool false
      queueSize := .int 0
      decoder := { encoding := .text (literal "utf-8") }
      isAsynchronous := true
      reader := .reading }

/-- A fatal sentence for the first of them. -/
def fatalWords : List Text := [literal "!fatal", literal ".tag=1"]

theorem tag_fatalWords : (Sentence.ofTexts fatalWords).tag = some (literal "1") := rfl

theorem heeds_twoCommands : twoCommands.Heeds (.ofTexts fatalWords) := by
  intro tag tagged
  cases tag_fatalWords.symm.trans tagged
  exact Option.some_ne_none 0

theorem isBystander_twoCommands : twoCommands.IsBystander 1 (.ofTexts fatalWords) where
  registered := ⟨literal "2", rfl⟩
  incomplete := rfl
  unaddressed tag tagged := by
    cases tag_fatalWords.symm.trans tagged
    decide

/-- It completes the second command as well. -/
theorem outcome?_twoCommands :
    (consume [fatalWords] (.ok twoCommands.link.decoder) twoCommands).outcome? 1 =
      some (some (some (.reported (.fatal (.ofTexts fatalWords)) none))) := by
  have ended := (fatal_ends_connection_iff_heeded
    (show (Sentence.ofTexts fatalWords).control = .fatal from rfl) [] (.ok twoCommands.link.decoder)
    twoCommands).2.1 heeds_twoCommands
  refine ended.completed isBystander_twoCommands ?_
  rintro ⟨-, tag, number, request, tagged, found, known, -, closes⟩
  cases tag_fatalWords.symm.trans tagged
  cases found
  cases known
  contradiction

/-- A fatal sentence for a command that is not outstanding. -/
def strayFatalWords : List Text := [literal "!fatal", literal ".tag=9"]

/-- It is not raised, and it does not end the connection. -/
theorem not_forall_isEndedBy_of_fatal :
    (¬ ∀ (client : Client) (sentence : Sentence), sentence.control = .fatal →
      (client.dispatch readerHost sentence).1 = .raised (.reported (.fatal sentence) none)) ∧
    ¬ ∀ (client : Client) (words : List Text) (later : List (List Text))
        (ending : Wire.Decoder.Ending), (Sentence.ofTexts words).control = .fatal →
      IsEndedBy (.ofTexts words) client (consume (words :: later) ending client) := by
  constructor
  · intro raises
    have raised := raises twoCommands (.ofTexts strayFatalWords) rfl
    have handled : (twoCommands.dispatch readerHost (.ofTexts strayFatalWords)).1 = .handled := rfl
    rw [handled] at raised
    contradiction
  · intro ends
    have ended := ends twoCommands strayFatalWords [] (.ok twoCommands.link.decoder) rfl
    have stillOpen : (consume [strayFatalWords] (.ok twoCommands.link.decoder)
      twoCommands).link.isClosed = false := rfl
    have isClosed := ended.cutOff.isClosed
    rw [stillOpen] at isClosed
    contradiction

end Client
end RouterApi
