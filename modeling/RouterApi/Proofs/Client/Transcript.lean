import RouterApi.Proofs.Client.Offers
import RouterApi.Proofs.Client.Orderly

/-!
# Transcripts

What a client offers to its stream, in terms of the calls of its caller. Each call gives one
command. Once a client is asynchronous, each command has a tag, and the tags are numbered in the
order of the commands. A callback may cancel the request that it belongs to, and so add a command in
between; without such callbacks the commands are just those of the calls.
-/

namespace RouterApi
namespace Client

/-- A call that gives a command, with a tag or without. It comes with what its callback for data
sentences does, if it has one. -/
structure Call where
  words : List Word
  isTagged : Bool
  reaction? : Option Reaction

/-- A command, with the number of its tag if it has one, and what its callback does. -/
structure Command where
  words : List Word
  number? : Option Nat
  reaction? : Option Reaction

namespace Command

/-- The call that gives a command. -/
def call (command : Command) : Call :=
  ⟨command.words, command.number?.isSome, command.reaction?⟩

/-- The words of a command and, if it has one, the word of its tag. -/
def sentence (command : Command) : List Word :=
  match command.number? with
  | none => command.words
  | some number => command.words ++ [.text (Word.ofTag (.text (Text.ofNat number)))]

/-- The data of the commands that can be written. -/
def payloads
    (encoding : Value)
    (commands : List Command) : List Bytes :=
  commands.filterMap fun command => Wire.payload? encoding command.sentence

theorem payloads_concat
    (encoding : Value)
    (commands : List Command)
    (command : Command) :
    payloads encoding (commands ++ [command]) =
      payloads encoding commands ++ (Wire.payload? encoding command.sentence).toList := by
  unfold payloads
  rw [List.filterMap_append]
  cases payload : Wire.payload? encoding command.sentence with
  | none => simp [payload]
  | some data => simp [payload]

end Command

/-- How calls become commands. The commands are those of the calls in the same order, and in between
the cancellations of earlier commands whose callbacks cancel them. The commands with a tag come
last, and are numbered from one on. -/
inductive Transcribes : List Call → List Command → Nat → Prop
  | nil : Transcribes [] [] 0
  | untagged {calls commands} (words : List Word)
      (earlier : Transcribes calls commands 0) :
      Transcribes (calls ++ [⟨words, false, none⟩]) (commands ++ [⟨words, none, none⟩]) 0
  | tagged {calls commands count} (words : List Word) (reaction? : Option Reaction)
      (earlier : Transcribes calls commands count) :
      Transcribes (calls ++ [⟨words, true, reaction?⟩])
        (commands ++ [⟨words, some (count + 1), reaction?⟩]) (count + 1)
  | cancelled {calls commands count number words}
      (issued : ⟨words, some number, some .cancel⟩ ∈ commands)
      (earlier : Transcribes calls commands count) :
      Transcribes calls
        (commands ++ [⟨cancelCommand (.text (Text.ofNat number)), some (count + 1), none⟩])
        (count + 1)

/-- Commands are numbered up to a count if the numbers of their tags increase up to it. -/
structure IsNumbered
    (commands : List Command)
    (count : Nat) : Prop where
  increasing : (commands.filterMap Command.number?).Pairwise (· < ·)
  bounded : ∀ number ∈ commands.filterMap Command.number?, number ≤ count

/-- The next command with a tag has the next number. -/
theorem IsNumbered.concat
    {commands : List Command}
    {count : Nat}
    (numbered : IsNumbered commands count)
    (words : List Word)
    (reaction? : Option Reaction) :
    IsNumbered (commands ++ [⟨words, some (count + 1), reaction?⟩]) (count + 1) := by
  constructor
  · rw [List.filterMap_append]
    refine List.pairwise_append.mpr ⟨numbered.increasing, List.pairwise_singleton .., ?_⟩
    intro earlier member later last
    cases List.mem_singleton.mp last
    exact Nat.lt_succ_of_le (numbered.bounded earlier member)
  · intro number member
    rw [List.filterMap_append] at member
    rcases List.mem_append.mp member with earlier | last
    · exact Nat.le_succ_of_le (numbered.bounded number earlier)
    · exact Nat.le_of_eq (List.mem_singleton.mp last)

theorem Transcribes.numbered
    {calls : List Call}
    {commands : List Command}
    {count : Nat}
    (transcribes : Transcribes calls commands count) :
    IsNumbered commands count := by
  induction transcribes with
  | nil => exact ⟨.nil, nofun⟩
  | @untagged calls commands words _ numbered =>
      have same : (commands ++ [Command.mk words none none]).filterMap Command.number? =
          commands.filterMap Command.number? := by
        rw [List.filterMap_append]
        exact List.append_nil _
      exact ⟨same ▸ numbered.increasing, same ▸ numbered.bounded⟩
  | tagged words reaction? _ numbered => exact numbered.concat words reaction?
  | cancelled _ _ numbered => exact numbered.concat _ none

/-- Without callbacks that cancel, the commands are just those of the calls. -/
theorem Transcribes.map_call_eq
    {calls : List Call}
    {commands : List Command}
    {count : Nat}
    (transcribes : Transcribes calls commands count)
    (uncancelled : ∀ call ∈ calls, call.reaction? ≠ some .cancel) :
    commands.map Command.call = calls := by
  induction transcribes with
  | nil => rfl
  | untagged words _ inductionHypothesis =>
      rw [List.map_append, inductionHypothesis (List.forall_mem_append.mp uncancelled).1]
      rfl
  | tagged words reaction? _ inductionHypothesis =>
      rw [List.map_append, inductionHypothesis (List.forall_mem_append.mp uncancelled).1]
      rfl
  | cancelled issued _ inductionHypothesis =>
      -- The command that is cancelled would be one of the calls.
      have member := List.mem_map_of_mem (f := Command.call) issued
      rw [inductionHypothesis uncancelled] at member
      exact absurd rfl (uncancelled _ member)

/-- Commands announce the cancellations by callbacks if each self-cancelling tag is that of one of
them, whose callback cancels it. -/
def Announces
    (commands : List Command)
    (client : Client) : Prop :=
  ∀ tag, client.IsSelfCancelling tag → ∃ number words,
    tag = Text.ofNat number ∧ ⟨words, some number, some .cancel⟩ ∈ commands

theorem Announces.append
    {commands : List Command}
    {client : Client}
    (announces : Announces commands client)
    (later : List Command) :
    Announces (commands ++ later) client := by
  intro tag cancelling
  obtain ⟨number, words, tag_eq, member⟩ := announces tag cancelling
  exact ⟨number, words, tag_eq, List.mem_append_left later member⟩

/-- The cancellation by a new request is announced by the command that the request is made for. -/
theorem Announces.enlist
    {commands : List Command}
    {client : Client}
    (announces : Announces commands client)
    (words : List Word)
    (handler : Handler) :
    Announces (commands ++ [⟨words, some (client.dispatcher.minted + 1), handler.reaction?⟩])
      (client.enlist words handler) := by
  rintro tag ⟨number, request, known, rfl, reaction⟩
  rcases request?_enlist_eq_some known with earlier | ⟨-, rfl⟩
  · exact announces.append _ _ ⟨number, request, earlier, rfl, reaction⟩
  · refine ⟨client.dispatcher.minted + 1, words, rfl, ?_⟩
    rw [← reaction]
    exact List.mem_append_right _ (List.mem_singleton_self _)

/-- The data on offer are those of the first commands, and of all commands while the connection is
open. Commands that are due are part of the transcript, but have not been written. -/
structure Carries
    (encoding : Value)
    (calls : List Call)
    (commands due : List Command)
    (client : Client) : Prop where
  transcribes : Transcribes calls (commands ++ due) client.dispatcher.minted
  conveyed : client.link.stream.offered <+: Command.payloads encoding commands
  complete : client.link.isClosed = false →
    client.link.stream.offered = Command.payloads encoding commands
  announces : Announces (commands ++ due) client

/-- A client is faithful to its calls if the data that it has offered are those of their commands,
apart from commands that are due. -/
structure IsFaithful
    (encoding : Value)
    (calls : List Call)
    (due : List Command)
    (client : Client) : Prop extends client.IsOrderly where
  hasEncoding : client.link.HasEncoding encoding
  untagged : client.link.isAsynchronous = false → client.dispatcher.minted = 0
  exists_commands : ∃ commands, client.Carries encoding calls commands due

variable
  {encoding : Value}
  {calls : List Call}
  {command : Command}
  {due : List Command}
  {client after : Client}

/-- If no command is due, the commands alone make up the transcript and announce cancellations. -/
theorem Carries.written
    {commands : List Command}
    (carries : client.Carries encoding calls commands []) :
    Transcribes calls commands client.dispatcher.minted ∧ Announces commands client := by
  obtain ⟨transcribes, -, -, announces⟩ := carries
  rw [List.append_nil] at transcribes announces
  exact ⟨transcribes, announces⟩

/-- A callback that cancels the command of its request adds to the transcript. -/
theorem Carries.cancelled
    {commands : List Command}
    {tag : Text}
    (carries : client.Carries encoding calls commands [])
    (cancelling : client.IsSelfCancelling tag) :
    Transcribes calls
      (commands ++
        [⟨cancelCommand (.text tag), some (client.dispatcher.minted + 1), none⟩])
      (client.dispatcher.minted + 1) := by
  obtain ⟨transcribes, announces⟩ := carries.written
  obtain ⟨number, words, rfl, issued⟩ := announces tag cancelling
  exact .cancelled issued transcribes

/-! ## Steps that offer nothing -/

/-- A client is silent if it mints no tags, offers nothing and makes no tag self-cancelling. -/
structure Silent
    (before after : Client) : Prop where
  minted_eq : after.dispatcher.minted = before.dispatcher.minted
  offered_eq : after.link.stream.offered = before.link.stream.offered
  isAsynchronous_eq : after.link.isAsynchronous = before.link.isAsynchronous
  isOpen : after.link.isClosed = false → before.link.isClosed = false
  selfCancelling : ∀ {tag}, after.IsSelfCancelling tag → before.IsSelfCancelling tag

theorem silent_refl (client : Client) : Silent client client :=
  ⟨rfl, rfl, rfl, id, id⟩

theorem Silent.trans
    {before between after : Client}
    (first : Silent before between)
    (second : Silent between after) :
    Silent before after where
  minted_eq := second.minted_eq.trans first.minted_eq
  offered_eq := second.offered_eq.trans first.offered_eq
  isAsynchronous_eq := second.isAsynchronous_eq.trans first.isAsynchronous_eq
  isOpen := first.isOpen ∘ second.isOpen
  selfCancelling cancelling := first.selfCancelling (second.selfCancelling cancelling)

/-- A change is silent if it keeps the tag of a request, and keeps its callback or leaves it
none. -/
theorem silent_modify
    (number : Nat)
    (change : Request → Request)
    (keepsTag : ∀ request, (change request).tag = request.tag)
    (keepsReaction : ∀ request, (change request).handler.reaction? = request.handler.reaction? ∨
      (change request).handler.reaction? = none)
    (client : Client) :
    Silent client (client.modify number change) :=
  ⟨rfl, rfl, rfl, id, .of_modify keepsTag keepsReaction⟩

/-- Whatever becomes of the queue of a listener is silent. -/
theorem silent_queue
    (number : Nat)
    (queue : Queue)
    (client : Client) :
    Silent client
      (client.modify number fun request => { request with handler := .listener queue }) :=
  silent_modify number (fun request => { request with handler := .listener queue })
    (fun _ => rfl) (fun _ => .inr rfl) client

theorem silent_conclude
    (number : Nat)
    (request : Request)
    (error : Option Error)
    (client : Client) :
    Silent client (Session.conclude number request error client) := by
  have silent := silent_modify number (fun request => { request with outcome := some error })
    (fun _ => rfl) (fun _ => .inl rfl) client
  unfold Session.conclude
  split
  · exact silent.trans ⟨rfl, rfl, rfl, id, id⟩
  · exact silent
  · exact silent

/-- The end of a connection is silent. -/
theorem shuts_silent (before : Client) : Shuts (fun _ => True) (Silent before) where
  entry _ _ := trivial
  log _ _ _ silent := silent.trans ⟨rfl, rfl, rfl, id, id⟩
  receipt _ silent := silent.trans ⟨rfl, rfl, rfl, id, id⟩
  conclude error _ _ _ silent := silent.trans (silent_conclude _ _ error _)
  queue _ _ _ _ silent := silent.trans (silent_queue ..)
  cutOff _ silent := silent.trans ⟨rfl, rfl, rfl, id, id⟩
  closing _ silent := silent.trans ⟨rfl, rfl, rfl, nofun, id⟩

theorem silent_shutDown (client : Client) : Silent client client.shutDown :=
  (shuts_silent client).shutDown (silent_refl client)

/-- A silent step leaves a client faithful. -/
theorem IsFaithful.silent
    (faithful : client.IsFaithful encoding calls due)
    (silent : Silent client after)
    (orderly : after.IsOrderly)
    (hasEncoding : after.link.HasEncoding encoding) :
    after.IsFaithful encoding calls due where
  toIsOrderly := orderly
  hasEncoding := hasEncoding
  untagged synchronous := by
    rw [silent.minted_eq]
    exact faithful.untagged (silent.isAsynchronous_eq.symm.trans synchronous)
  exists_commands := by
    obtain ⟨commands, carries⟩ := faithful.exists_commands
    refine ⟨commands, ?_, ?_, ?_, ?_⟩
    · rw [silent.minted_eq]
      exact carries.transcribes
    · rw [silent.offered_eq]
      exact carries.conveyed
    · rw [silent.offered_eq]
      exact fun isOpen => carries.complete (silent.isOpen isOpen)
    · exact fun tag cancelling => carries.announces tag (silent.selfCancelling cancelling)

theorem IsFaithful.shutDown
    (faithful : client.IsFaithful encoding calls due) :
    client.shutDown.IsFaithful encoding calls due :=
  faithful.silent (silent_shutDown client) faithful.toIsOrderly.shutDown
    ((steady_hasEncoding encoding).shutDown faithful.hasEncoding)

/-! ## Writing -/

/-- A command that is due is no longer due once it has been offered. -/
theorem IsFaithful.offered
    (faithful : client.IsFaithful encoding calls [command])
    (orderly : after.IsOrderly)
    (hasEncoding : after.link.HasEncoding encoding)
    (dispatcher_eq : after.dispatcher = client.dispatcher)
    (isAsynchronous_eq : after.link.isAsynchronous = client.link.isAsynchronous)
    (isClosed_eq : after.link.isClosed = client.link.isClosed)
    (offered_eq : after.link.stream.offered =
      client.link.stream.offered ++ client.offer command.sentence) :
    after.IsFaithful encoding calls [] where
  toIsOrderly := orderly
  hasEncoding := hasEncoding
  untagged synchronous := by
    rw [dispatcher_eq]
    exact faithful.untagged (isAsynchronous_eq.symm.trans synchronous)
  exists_commands := by
    obtain ⟨commands, carries⟩ := faithful.exists_commands
    have transcribes : Transcribes calls (commands ++ [command] ++ []) after.dispatcher.minted := by
      rw [List.append_nil, dispatcher_eq]
      exact carries.transcribes
    have announces : Announces (commands ++ [command] ++ []) after := by
      rw [List.append_nil]
      exact fun tag cancelling =>
        carries.announces tag (cancelling.of_dispatcher_eq dispatcher_eq)
    have payloads_eq := Command.payloads_concat encoding commands command
    cases isClosed : client.link.isClosed with
    | true =>
        rw [offer_of_isClosed isClosed, List.append_nil] at offered_eq
        refine ⟨commands ++ [command], transcribes, ?_, ?_, announces⟩
        · rw [offered_eq, payloads_eq]
          exact carries.conveyed.trans (List.prefix_append ..)
        · intro isOpen
          rw [isClosed_eq, isClosed] at isOpen
          contradiction
    | false =>
        rw [offer_of_isOpen isClosed, faithful.hasEncoding.encoding_eq, carries.complete isClosed,
          ← payloads_eq] at offered_eq
        exact ⟨commands ++ [command], transcribes, offered_eq ▸ List.prefix_refl _,
          fun _ => offered_eq, announces⟩

theorem IsFaithful.write
    {close : Client → Client}
    (keeps : ∀ {client : Client}, client.IsFaithful encoding calls [] →
      (close client).IsFaithful encoding calls [])
    (faithful : client.IsFaithful encoding calls [command]) :
    (write close command.sentence client).2.IsFaithful encoding calls [] := by
  have unoffered (nothing : client.offer command.sentence = []) :
      client.IsFaithful encoding calls [] :=
    faithful.offered faithful.toIsOrderly faithful.hasEncoding rfl rfl rfl
      (by rw [nothing, List.append_nil])
  have sending {data shown result stream}
      (encoded : Wire.encodeSentence client.link.decoder.encoding command.sentence = .ok data)
      (isOpen : client.link.isClosed = false)
      (masked : Word.maskedAll command.sentence = .ok shown)
      (sent : client.link.stream.send data = (result, stream)) :
      IsFaithful encoding calls []
        ((client.showing shown).modifyLink ({ · with stream })) := by
    have orderly := transmits_isOrderly.send data
      (transmits_isOrderly.showing shown faithful.toIsOrderly) isOpen
    have hasEncoding := (steady_hasEncoding encoding).send data faithful.hasEncoding isOpen
    have offered_eq := Stream.offered_send data client.link.stream
    have stream_eq : (client.showing shown).link.stream.send data = (result, stream) := sent
    rw [stream_eq] at orderly
    rw [sent] at hasEncoding offered_eq
    refine faithful.offered orderly hasEncoding rfl rfl rfl ?_
    rw [offer_of_isOpen isOpen, Wire.payload?_eq_some_iff.mpr ⟨encoded, shown, masked⟩]
    exact offered_eq
  have written := written_write close command.sentence client
  generalize Client.write close command.sentence client = result at written ⊢
  cases written with
  | unencoded failed => exact unoffered (by simp [offer, Wire.payload?_of_error failed])
  | refused _ isClosed => exact unoffered (offer_of_isClosed isClosed _)
  | unshown _ _ unshown => exact unoffered (by simp [offer, Wire.payload?_of_unshown unshown])
  | sent encoded isOpen masked sent => exact sending encoded isOpen masked sent
  | failed encoded isOpen masked failed => exact keeps (sending encoded isOpen masked failed)

/-! ## Submission -/

/-- A request is made for a command with the next number, which is due then. -/
theorem IsFaithful.enlisted
    {later : List Call}
    {words : List Word}
    {handler : Handler}
    (faithful : client.IsFaithful encoding calls [])
    (asynchronous : client.link.isAsynchronous = true)
    (next : ∀ {commands}, client.Carries encoding calls commands [] →
      Transcribes later
        (commands ++ [⟨words, some (client.dispatcher.minted + 1), handler.reaction?⟩])
        (client.dispatcher.minted + 1))
    (orderly : after.IsOrderly)
    (minted_eq : after.dispatcher.minted = client.dispatcher.minted + 1)
    (announced : ∀ {tag}, after.IsSelfCancelling tag →
      (client.enlist words handler).IsSelfCancelling tag)
    (link_eq : after.link = client.link) :
    after.IsFaithful encoding later
      [⟨words, some (client.dispatcher.minted + 1), handler.reaction?⟩] where
  toIsOrderly := orderly
  hasEncoding := by
    rw [link_eq]
    exact faithful.hasEncoding
  untagged synchronous := by
    rw [link_eq, asynchronous] at synchronous
    contradiction
  exists_commands := by
    obtain ⟨commands, carries⟩ := faithful.exists_commands
    refine ⟨commands, ?_, ?_, ?_, ?_⟩
    · rw [minted_eq]
      exact next carries
    · rw [link_eq]
      exact carries.conveyed
    · rw [link_eq]
      exact carries.complete
    · exact fun tag cancelling => carries.written.2.enlist words handler tag (announced cancelling)

/-- Submitting a command of an asynchronous client adds it to the transcript. -/
theorem IsFaithful.submit
    {close : Client → Client}
    {later : List Call}
    {words : List Word}
    (keeps : ∀ {client : Client}, client.IsFaithful encoding later [] →
      (close client).IsFaithful encoding later [])
    (handler : Handler)
    (faithful : client.IsFaithful encoding calls [])
    (asynchronous : client.link.isAsynchronous = true)
    (next : ∀ {commands}, client.Carries encoding calls commands [] →
      Transcribes later
        (commands ++ [⟨words, some (client.dispatcher.minted + 1), handler.reaction?⟩])
        (client.dispatcher.minted + 1)) :
    (submit close words handler client).2.IsFaithful encoding later [] := by
  cases isClosed : client.link.isClosed with
  | true =>
      obtain ⟨error, -, submitted⟩ := submit_of_refused close words handler
        (.inl (faithful.cutOff isClosed).failed)
      have orderly := transmits_isOrderly.enlist words handler faithful.toIsOrderly
      have enlisted := faithful.enlisted asynchronous next orderly rfl id rfl
      have unoffered : (client.enlist words handler).offer (Command.sentence
          ⟨words, some (client.dispatcher.minted + 1), handler.reaction?⟩) = [] :=
        offer_of_isClosed isClosed _
      rw [submitted]
      exact enlisted.offered orderly enlisted.hasEncoding rfl rfl rfl
        (by rw [unoffered, List.append_nil])
  | false =>
      have working := faithful.working isClosed
      have free := faithful.lookup?_nextTag
      have enrolled := faithful.enlisted asynchronous next
        (transmits_isOrderly.enroll words handler working free faithful.toIsOrderly) rfl id rfl
      have written := enrolled.write keeps
      have sentence_eq : client.tagged words = Command.sentence
          ⟨words, some (client.dispatcher.minted + 1), handler.reaction?⟩ := rfl
      rw [submit_of_free close words handler working free, sentence_eq]
      generalize Client.write close _ (client.enroll words handler) = result at written ⊢
      obtain ⟨outcome, after⟩ := result
      cases outcome with
      | ok => exact written
      | error error =>
          simp only
          split
          · exact written.silent ⟨rfl, rfl, rfl, id, id⟩ (written.remove client.nextTag)
              written.hasEncoding
          · exact written

/-! ## Whatever else happens -/

/-- A faithful client stays faithful, as long as its caller issues no command. -/
theorem tolerates_isFaithful
    (encoding : Value)
    (calls : List Call) :
    Tolerates Belongs (· = encoding) (IsFaithful encoding calls []) where
  entry faithful member := faithful.tagged member
  log level source message faithful :=
    faithful.silent ⟨rfl, rfl, rfl, id, id⟩
      (endures_isOrderly.log level source message faithful.toIsOrderly) faithful.hasEncoding
  receipt receipt faithful :=
    faithful.silent ⟨rfl, rfl, rfl, id, id⟩
      (endures_isOrderly.receipt receipt faithful.toIsOrderly) faithful.hasEncoding
  queue owned known handler offered faithful :=
    faithful.silent (silent_queue ..)
      (endures_isOrderly.queue owned known handler offered faithful.toIsOrderly)
      faithful.hasEncoding
  fold sentence owned faithful :=
    faithful.silent
      (silent_modify _ (fun request => { request with reply := request.reply.process sentence })
        (fun _ => rfl) (fun _ => .inl rfl) _)
      (endures_isOrderly.fold sentence owned faithful.toIsOrderly) faithful.hasEncoding
  call sentence owned known handler faithful :=
    faithful.silent ⟨rfl, rfl, rfl, id, id⟩
      (endures_isOrderly.call sentence owned known handler faithful.toIsOrderly)
      faithful.hasEncoding
  mark owned known outstanding faithful :=
    faithful.silent
      (silent_modify _ (fun request => { request with cancelled := true }) (fun _ => rfl)
        (fun _ => .inl rfl) _)
      (endures_isOrderly.mark owned known outstanding faithful.toIsOrderly) faithful.hasEncoding
  unmatched error sentence faithful :=
    faithful.silent ⟨rfl, rfl, rfl, id, id⟩
      (endures_isOrderly.unmatched error sentence faithful.toIsOrderly) faithful.hasEncoding
  release {client tag number} error owned faithful := by
    have silent := shuts_silent client
    have hasEncoding := steady_hasEncoding encoding
    refine faithful.silent ?_ (endures_isOrderly.release error owned faithful.toIsOrderly) ?_
    · exact silent.finishLogged silent.shutDown tag error trivial ⟨rfl, rfl, rfl, id, id⟩
    · exact hasEncoding.finishLogged hasEncoding.shutDown tag error trivial faithful.hasEncoding
  cancel {client _} cancelling faithful := by
    have asynchronous : client.link.isAsynchronous = true := by
      refine Bool.ne_false_iff.mp fun synchronous => ?_
      obtain ⟨number, request, known, -⟩ := cancelling
      have made := (List.getElem?_eq_some_iff.mp known).1
      rw [← faithful.minted_eq, faithful.untagged synchronous] at made
      exact Nat.not_lt_zero number made
    rw [cancel_snd]
    exact faithful.submit IsFaithful.shutDown (.callbacks none none) asynchronous
      fun carries => carries.cancelled cancelling
  close := IsFaithful.shutDown
  giveUp givenUp faithful := by
    rwa [eq_of_giveUp givenUp]
  fits faithful := faithful.hasEncoding.encoding_eq
  holdup {_ number _ _ _} faithful reader :=
    ⟨⟨tagOf number, rfl⟩, faithful.hasEncoding.fitting reader⟩
  take isOpen faithful :=
    faithful.silent ⟨rfl, Stream.offered_takeArrived _, rfl, id, id⟩
      (endures_isOrderly.take isOpen faithful.toIsOrderly)
      ((endures_hasEncoding encoding).take isOpen faithful.hasEncoding)
  idle fits faithful :=
    faithful.silent ⟨rfl, rfl, rfl, id, id⟩
      (endures_isOrderly.idle trivial faithful.toIsOrderly)
      ((endures_hasEncoding encoding).idle fits faithful.hasEncoding)
  hold sentence later owned fitting known faithful :=
    faithful.silent ⟨rfl, rfl, rfl, id, id⟩
      (endures_isOrderly.hold sentence later owned (fun _ _ => trivial) known
        faithful.toIsOrderly)
      ⟨faithful.hasEncoding.encoding_eq, fun | rfl => fitting⟩
  endReader {client} error faithful := by
    refine faithful.silent ?_ (endures_isOrderly.endReader error faithful.toIsOrderly)
      ((endures_hasEncoding encoding).endReader error faithful.hasEncoding)
    exact (shuts_silent client).endReader
      (fun _ silent => silent.trans ⟨rfl, rfl, rfl, id, id⟩) error (silent_refl client)
  owner number := ⟨tagOf number, rfl⟩
  conclude {client number request} error known outstanding faithful := by
    refine faithful.silent (silent_conclude _ _ error client)
      (endures_isOrderly.conclude error known outstanding faithful.toIsOrderly) ?_
    exact (steady_hasEncoding encoding).conclude error trivial known outstanding
      faithful.hasEncoding
  items number queue items faithful :=
    faithful.silent (silent_queue number { queue with items } _)
      (endures_isOrderly.items number queue items faithful.toIsOrderly) faithful.hasEncoding
  arrive chunks faithful :=
    faithful.silent ⟨rfl, rfl, rfl, id, id⟩
      (endures_isOrderly.arrive chunks faithful.toIsOrderly)
      ((endures_hasEncoding encoding).arrive chunks faithful.hasEncoding)
  vanish faithful :=
    faithful.silent ⟨rfl, rfl, rfl, id, id⟩ (endures_isOrderly.vanish faithful.toIsOrderly)
      ((endures_hasEncoding encoding).vanish faithful.hasEncoding)
  engage mode isOpen faithful :=
    { toIsOrderly := endures_isOrderly.engage mode isOpen faithful.toIsOrderly
      hasEncoding := (endures_hasEncoding encoding).engage mode isOpen faithful.hasEncoding
      untagged := nofun
      exists_commands := by
        obtain ⟨commands, carries⟩ := faithful.exists_commands
        exact ⟨commands, carries.transcribes, carries.conveyed, carries.complete,
          carries.announces⟩ }
  exchange isOpen yields faithful :=
    faithful.silent ⟨rfl, yields.offered_eq, rfl, id, id⟩
      (endures_isOrderly.exchange isOpen yields faithful.toIsOrderly)
      ((endures_hasEncoding encoding).exchange isOpen yields faithful.hasEncoding)

end Client
end RouterApi
