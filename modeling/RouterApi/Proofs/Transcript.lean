import RouterApi.Proofs.Client.Transcript
import RouterApi.Proofs.Closing
import RouterApi.Proofs.Wire.RoundTrip

/-!
# What the wire carries

The data that a client offers to its stream, throughout its life, are whole sentences: those of the
commands that its caller issues, in the order of the calls, and in between the cancellations of
those whose callbacks cancel them. Nothing is offered for a command that cannot be written, or once
the connection is closed.
-/

namespace RouterApi
namespace Client

/-! ## Calls -/

/-- The call of a command that is issued, with what its callback for data sentences does. A client
that is closed before it has been switched to asynchronous operation does not issue commands. -/
def issue
    (words : List Word)
    (reaction? : Option Reaction)
    (client : Client) : List Call :=
  if client.link.isAsynchronous || !client.link.isClosed then [⟨words, true, reaction?⟩] else []

/-- The call of the cancellation of a request, unless the request is complete. -/
def issueCancellation
    (number : Nat)
    (client : Client) : List Call :=
  match client.request? number with
  | none => []
  | some request =>
      if request.isDone then [] else client.issue (cancelCommand (.text request.tag)) none

/-- The calls of a login: its first command and, if the reply to that is a challenge which can be
answered, the answer. -/
def loginCalls
    (username password : Value)
    (client : Client) : List Call :=
  let words := (Login.firstCommand username password client).map .text
  let (outcome, between) := (Login.logStart username client).run words
  let response :=
    match outcome with
    | .returned reply => Login.response? password reply
    | _ => none
  ⟨words, client.link.isAsynchronous, none⟩ ::
    response.toList.map fun response =>
      ⟨(Login.answerCommand username response).map .text, between.link.isAsynchronous, none⟩

/-- The calls of an operation. -/
def Operation.calls
    (operation : Operation)
    (client : Client) : List Call :=
  match operation with
  | start words handler => client.issue words handler.reaction?
  | cancelRequest number => client.issueCancellation number
  | fail _ _ | takeNext _ | takeAll _ | close | receive _ | hangUp => []

/-- The calls of an action. -/
def Action.calls
    (action : Action)
    (client : Client) : List Call :=
  match action with
  | login username password => client.loginCalls username password
  | run words => [⟨words, client.link.isAsynchronous, none⟩]
  | switch => []
  | operate operation => operation.calls client

/-- The calls of a life. -/
def calls : List Action → Client → List Call
  | [], _ => []
  | action :: later, client => action.calls client ++ calls later (action.perform client)

variable
  {encoding : Value}
  {earlier : List Call}
  {client : Client}

/-! ## Faithful clients -/

theorem IsFaithful.settle
    (faithful : client.IsFaithful encoding earlier []) :
    (settle client).IsFaithful encoding earlier [] :=
  (tolerates_isFaithful encoding earlier).settle faithful

theorem IsFaithful.close
    (faithful : client.IsFaithful encoding earlier []) :
    client.close.IsFaithful encoding earlier [] :=
  (tolerates_isFaithful encoding earlier).closeByCaller faithful

theorem IsFaithful.log
    (faithful : client.IsFaithful encoding earlier [])
    (level : LogLevel)
    (source : LogSource)
    (message : Text) :
    IsFaithful encoding earlier [] (client.log level source message) :=
  (tolerates_isFaithful encoding earlier).log level source message faithful

/-- An open synchronous client can be switched to asynchronous operation. -/
theorem switch_of_isOpen
    (synchronous : client.link.isAsynchronous = false)
    (isOpen : client.link.isClosed = false) :
    client.switch.1 = .ok () ∧ client.switch.2.link.isAsynchronous = true := by
  have stable := stable_isAsynchronous true
  unfold switch
  rw [if_neg (by simp [synchronous]), if_neg (by simp [isOpen])]
  exact ⟨rfl, stable.settle (stable.consumeFrom _ rfl)⟩

/-- A command that is issued on an asynchronous client gets a tag. -/
theorem IsFaithful.startTagged
    (faithful : client.IsFaithful encoding earlier [])
    (asynchronous : client.link.isAsynchronous = true)
    (words : List Word)
    (handler : Handler) :
    (Client.settle (Client.submit Client.close words handler client).2).IsFaithful encoding
      (earlier ++ [⟨words, true, handler.reaction?⟩]) [] :=
  (faithful.submit IsFaithful.close handler asynchronous
    fun carries => .tagged words handler.reaction? carries.written.1).settle

theorem IsFaithful.start
    (faithful : client.IsFaithful encoding earlier [])
    (words : List Word)
    (handler : Handler) :
    (client.start words handler).2.IsFaithful encoding
      (earlier ++ client.issue words handler.reaction?) [] := by
  cases mode : client.link.isAsynchronous with
  | true =>
      rw [start_of_isAsynchronous words handler mode, issue, if_pos (by simp [mode])]
      exact faithful.startTagged mode words handler
  | false =>
      cases isClosed : client.link.isClosed with
      | true =>
          have switched : client.switch = (.error (.closed .alreadyClosed), client) := by
            simp [switch, mode, isClosed]
          rw [issue, if_neg (by simp [mode, isClosed]), List.append_nil]
          simpa [Client.start, switched] using faithful
      | false =>
          obtain ⟨succeeded, asynchronous⟩ := switch_of_isOpen mode isClosed
          have switched := (tolerates_isFaithful encoding earlier).switch faithful
          rw [issue, if_pos (by simp [isClosed]), Client.start]
          generalize client.switch = result at succeeded asynchronous switched ⊢
          obtain ⟨outcome, after⟩ := result
          cases succeeded
          exact switched.startTagged asynchronous words handler

theorem IsFaithful.cancelRequest
    (faithful : client.IsFaithful encoding earlier [])
    (number : Nat) :
    (client.cancelRequest number).2.IsFaithful encoding
      (earlier ++ client.issueCancellation number) [] := by
  unfold Client.cancelRequest Session.cancelRequest issueCancellation
  cases known : client.request? number with
  | none => simpa [known] using faithful
  | some request =>
      cases outstanding : request.isDone with
      | true => simpa [known, outstanding] using faithful
      | false =>
          have marked := (tolerates_isFaithful encoding earlier).mark (rfl : Belongs _ number)
            known outstanding faithful
          have started := marked.start (cancelCommand (.text request.tag)) (.callbacks none none)
          simp only [outstanding, Bool.false_eq_true, if_false, cancel, runAsync]
          cases result : Client.start (cancelCommand (.text request.tag)) (.callbacks none none)
              (client.modify number fun request => { request with cancelled := true }) with
          | mk outcome after =>
              rw [result] at started
              cases outcome with
              | ok => exact started
              | error => exact started

theorem IsFaithful.operate
    (faithful : client.IsFaithful encoding earlier [])
    (operation : Operation) :
    (operation.perform client).IsFaithful encoding (earlier ++ operation.calls client) [] := by
  have tolerates := tolerates_isFaithful encoding earlier
  cases operation with
  | start words handler => exact faithful.start words handler
  | cancelRequest number => exact faithful.cancelRequest number
  | fail number error =>
      rw [Operation.calls, List.append_nil]
      exact tolerates.fail number error faithful
  | takeNext number =>
      rw [Operation.calls, List.append_nil]
      exact tolerates.settles.takeNext? trivial faithful
  | takeAll number =>
      rw [Operation.calls, List.append_nil]
      exact tolerates.settles.takeAll? trivial faithful
  | close =>
      rw [Operation.calls, List.append_nil]
      exact faithful.close
  | receive chunks =>
      rw [Operation.calls, List.append_nil]
      exact tolerates.settles.receive chunks faithful
  | hangUp =>
      rw [Operation.calls, List.append_nil]
      exact tolerates.settles.hangUp faithful

/-- A command of a synchronous client is written without a tag. -/
theorem IsFaithful.due
    (faithful : client.IsFaithful encoding earlier [])
    (synchronous : client.link.isAsynchronous = false)
    (words : List Word) :
    client.IsFaithful encoding (earlier ++ [⟨words, false, none⟩]) [⟨words, none, none⟩] where
  toIsOrderly := faithful.toIsOrderly
  hasEncoding := faithful.hasEncoding
  untagged := faithful.untagged
  exists_commands := by
    obtain ⟨commands, carries⟩ := faithful.exists_commands
    obtain ⟨transcribes, announces⟩ := carries.written
    have untagged := faithful.untagged synchronous
    rw [untagged] at transcribes
    refine ⟨commands, ?_, carries.conveyed, carries.complete, announces.append _⟩
    rw [untagged]
    exact .untagged words transcribes

theorem IsFaithful.run
    (faithful : client.IsFaithful encoding earlier [])
    (words : List Word) :
    (client.run words).2.IsFaithful encoding
      (earlier ++ [⟨words, client.link.isAsynchronous, none⟩]) [] := by
  cases mode : client.link.isAsynchronous with
  | true =>
      have started := faithful.start words (.callbacks none none)
      rw [issue, if_pos (by simp [mode])] at started
      rwa [run_of_isAsynchronous words mode]
  | false =>
      exact (tolerates_isFaithful _ _).converses.run mode
        ((faithful.due mode words).write IsFaithful.close)

theorem IsFaithful.login
    (faithful : client.IsFaithful encoding earlier [])
    (username password : Value) :
    (client.login username password).2.IsFaithful encoding
      (earlier ++ client.loginCalls username password) [] := by
  have started : (Login.logStart username client).IsFaithful encoding earlier [] :=
    faithful.log ..
  have first := started.run ((Login.firstCommand username password client).map .text)
  have runs := Login.runs_login username password client
  generalize (client.login username password).2 = after at runs ⊢
  unfold loginCalls
  cases runs with
  | @first outcome between _ ran noted unanswered =>
      have response_eq : (match outcome with
          | .returned reply => Login.response? password reply
          | _ => none) = none := by
        cases outcome with
        | returned reply => exact unanswered reply rfl
        | raised | waiting => rfl
      rw [ran] at first
      simp only [ran, response_eq]
      rcases noted with rfl | rfl
      · exact first
      · exact first.log ..
  | @second reply between digits challenge response outcome last _ ran challenged decoded digested
      answered noted =>
      have response_eq : Login.response? password reply = some response := by
        simp [Login.response?, challenged, decoded, digested, Except.toOption]
      rw [ran] at first
      have answering : (Login.answering username between).IsFaithful encoding _ [] := first.log ..
      have second := answering.run ((Login.answerCommand username response).map .text)
      rw [answered, List.append_assoc] at second
      simp only [ran, response_eq]
      rcases noted with rfl | rfl
      · exact second
      · exact second.log ..

/-- Every action adds its calls to the transcript. -/
theorem IsFaithful.perform
    (faithful : client.IsFaithful encoding earlier [])
    (action : Action) :
    (action.perform client).IsFaithful encoding (earlier ++ action.calls client) [] := by
  cases action with
  | login username password => exact faithful.login username password
  | run words => exact faithful.run words
  | switch =>
      rw [Action.calls, List.append_nil]
      exact (tolerates_isFaithful encoding earlier).switch faithful
  | operate operation => exact faithful.operate operation

/-- A life adds its calls to the transcript. -/
theorem IsFaithful.live
    (faithful : client.IsFaithful encoding earlier [])
    (actions : List Action) :
    (client.live actions).IsFaithful encoding (earlier ++ client.calls actions) [] := by
  induction actions generalizing earlier client with
  | nil =>
      rw [calls, List.append_nil]
      exact faithful
  | cons action later inductionHypothesis =>
      rw [calls, ← List.append_assoc]
      exact inductionHypothesis (faithful.perform action)

theorem IsNew.isFaithful (new : client.IsNew) :
    client.IsFaithful client.link.decoder.encoding [] [] where
  toIsOrderly := new.isOrderly
  hasEncoding := hasEncoding_of_readerless new.readerless
  untagged _ := by rw [new.dispatcher_eq]
  exists_commands := by
    refine ⟨[], ?_, ?_, ?_, ?_⟩
    · rw [new.dispatcher_eq]
      exact .nil
    · rw [new.offered_eq]
      exact List.nil_prefix
    · rw [new.offered_eq]
      exact fun _ => rfl
    · rintro tag ⟨number, request, known, -⟩
      rw [Session.request?, Dispatcher.request?, new.dispatcher_eq] at known
      contradiction

/-! ## The result -/

/-- The payload of a command can be decoded. -/
theorem exists_decodeSentence_of_payload?
    {words : List Word}
    {data : Bytes}
    (payload : Wire.payload? encoding words = some data) :
    ∃ contents, Wire.decodeSentence encoding data = .ok contents := by
  obtain ⟨encoded, shown, masked⟩ := Wire.payload?_eq_some_iff.mp payload
  obtain ⟨layout, rfl, -, encodes⟩ := Wire.encodeSentence_eq_ok_iff.mp encoded
  cases isKnown : Encoding.charset encoding with
  | ok charset => exact ⟨_, (Wire.decodeSentence_bytes_iff isKnown layout).mpr rfl⟩
  | error error =>
      -- Only texts can be shown, and a text cannot be encoded, so there are no words.
      generalize contents_eq : layout.contents = contents at encodes
      cases encodes with
      | nil => exact ⟨[], Wire.decodeSentence_eq_ok_iff.mpr ⟨layout, rfl, contents_eq ▸ .nil⟩⟩
      | @cons word _ _ _ written =>
          cases word with
          | text content => simp [Wire.wordBytes, Encoding.encode, isKnown] at written
          | _ => simp [Word.maskedAll, Word.texts, Value.asText, Except.map] at masked

/-- The wire carries the commands of a life. The data that are offered to the stream are those of
the commands of the calls, in order, up to when the connection was closed; the numbers of the tags
increase. If no callback cancels the command of its request, there are no other commands than those
of the calls. All data together decode as a sentence for each of them, and nothing is left. Once the
connection is closed, no data are offered any more. -/
structure CarriesCommands
    (encoding : Value)
    (actions : List Action)
    (client : Client) : Prop where
  exists_commands : ∃ commands count,
    Transcribes (client.calls actions) commands count ∧
    ((∀ call ∈ client.calls actions, call.reaction? ≠ some .cancel) →
      commands.map Command.call = client.calls actions) ∧
    (commands.filterMap Command.number?).Pairwise (· < ·) ∧
    (client.live actions).link.stream.offered <+: Command.payloads encoding commands ∧
    ((client.live actions).link.isClosed = false →
      (client.live actions).link.stream.offered = Command.payloads encoding commands)
  exists_sentences : ∃ sentences,
    List.Forall₂ (fun data words => Wire.decodeSentence encoding data = .ok words)
      (client.live actions).link.stream.offered sentences ∧
    (({ encoding } : Wire.Decoder).feed (client.live actions).link.stream.offered.flatten).drain =
      (sentences, .ok { encoding })
  isFinal : ∀ earlier later, actions = earlier ++ later →
    (client.live earlier).link.isClosed = true →
    (client.live actions).link.stream.offered = (client.live earlier).link.stream.offered

/-- The payloads of commands can be decoded one by one. -/
theorem exists_forall₂_decodeSentence
    {pieces : List Bytes}
    {commands : List Command}
    (part : pieces <+: Command.payloads encoding commands) :
    ∃ sentences, List.Forall₂ (fun data words => Wire.decodeSentence encoding data = .ok words)
      pieces sentences := by
  have decodable : ∀ data ∈ pieces, ∃ words, Wire.decodeSentence encoding data = .ok words := by
    intro data member
    obtain ⟨command, -, payload⟩ := List.mem_filterMap.mp (part.subset member)
    exact exists_decodeSentence_of_payload? payload
  clear part
  induction pieces with
  | nil => exact ⟨[], .nil⟩
  | cons data later inductionHypothesis =>
      obtain ⟨first, others⟩ := List.forall_mem_cons.mp decodable
      obtain ⟨words, decoded⟩ := first
      obtain ⟨sentences, decodes⟩ := inductionHypothesis others
      exact ⟨words :: sentences, .cons decoded decodes⟩

/-- The wire carries the commands of a new client. -/
theorem IsNew.carriesCommands
    (new : client.IsNew)
    (actions : List Action) :
    client.CarriesCommands client.link.decoder.encoding actions := by
  have faithful := new.isFaithful.live actions
  obtain ⟨commands, carries⟩ := faithful.exists_commands
  obtain ⟨transcribes, -⟩ := carries.written
  rw [List.nil_append] at transcribes
  obtain ⟨sentences, decodes⟩ := exists_forall₂_decodeSentence carries.conveyed
  refine
    { exists_commands := ⟨commands, _, transcribes, transcribes.map_call_eq,
        transcribes.numbered.increasing, carries.conveyed, carries.complete⟩
      exists_sentences := ⟨sentences, decodes, Wire.Decoder.drain_flatten decodes⟩
      isFinal := ?_ }
  rintro before after rfl isClosed
  rw [live_append]
  exact (offered_live_of_isClosed isClosed after).2

/-- The first command has no tag; the second one has, and is the last. -/
theorem carriesCommands_obliging :
    obliging.IsNew ∧
      obliging.CarriesCommands (.text (literal "utf-8")) closingLife ∧
      (obliging.live closingLife).link.stream.offered =
        [[2, 0x2F, 0x61, 0], [2, 0x2F, 0x62, 6, 0x2E, 0x74, 0x61, 0x67, 0x3D, 0x31, 0]] := by
  have new : obliging.IsNew := ⟨rfl, rfl, rfl, rfl, rfl, rfl⟩
  exact ⟨new, new.carriesCommands closingLife, rfl⟩

/-- A callback cancels its command, and the cancellation has a tag of its own. -/
example :
    (obliging.live
        [.operate (.start [.text (literal "/a")] (.callbacks (some .cancel) none)),
          .operate (.receive
            [.data [3, 0x21, 0x72, 0x65, 6, 0x2E, 0x74, 0x61, 0x67, 0x3D, 0x31, 0]])]
      ).link.stream.offered =
      [[2, 0x2F, 0x61, 6, 0x2E, 0x74, 0x61, 0x67, 0x3D, 0x31, 0],
        [7, 0x2F, 0x63, 0x61, 0x6E, 0x63, 0x65, 0x6C, 6, 0x3D, 0x74, 0x61, 0x67, 0x3D, 0x31,
          6, 0x2E, 0x74, 0x61, 0x67, 0x3D, 0x32, 0]] := rfl

end Client
end RouterApi
