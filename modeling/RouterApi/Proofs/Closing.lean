import RouterApi.Proofs.Client.Accounts
import RouterApi.Proofs.Client.Sealed

/-!
# Closing once and for all

Whatever closes a connection, in whatever state and from whatever callback, closes its stream just
once, completes every request that was issued, and is final: commands are turned away from then on,
and the stream is not used again.
-/

namespace RouterApi
namespace Client

/-- A client is new if it is open and synchronous, has made no requests, and has not used its
stream. -/
structure IsNew (client : Client) : Prop where
  dispatcher_eq : client.dispatcher = {}
  synchronous : client.link.isAsynchronous = false
  readerless : client.link.reader = .absent
  isOpen : client.link.isClosed = false
  offered_eq : client.link.stream.offered = []
  closes_eq : client.link.stream.closes = 0

/-- A client that is made over an unused stream is new. -/
theorem isNew_of_create
    {options : ClientOptions}
    {stream : Stream}
    {settings : Settings}
    {client : Client}
    (created : (create options stream settings).1 = .ok client)
    (offered_eq : stream.offered = [])
    (closes_eq : stream.closes = 0) :
    client.IsNew := by
  unfold create at created
  split at created
  · cases created
  · split at created
    · cases created
    · split at created
      · cases created
      · cases created
        exact ⟨rfl, rfl, rfl, rfl, offered_eq, closes_eq⟩

variable {client : Client}

theorem IsNew.isOrderly (new : client.IsNew) : client.IsOrderly where
  closes_eq := by rw [new.closes_eq, new.isOpen, Bool.toNat_false]
  minted_eq := by simp [new.dispatcher_eq]
  tagged member := by simp [new.dispatcher_eq] at member
  made member := by simp [new.dispatcher_eq] at member
  cutOff isClosed := by
    rw [new.isOpen] at isClosed
    contradiction
  working _ := by rw [new.dispatcher_eq]

/-! ## Commands on a closed connection -/

/-- What becomes of a command that is turned away: the connection is found to be closed, and the
stream is left as it is. -/
structure IsTurnedAway
    (raised : Error → Prop)
    (before after : Client) : Prop where
  error : ∃ error, raised error ∧ error.kind = .connectionClosed
  stream_eq : after.link.stream = before.link.stream

theorem submit_of_failed
    (close : Client → Client)
    (words : List Word)
    (handler : Handler)
    {failure : Error}
    (failed : client.dispatcher.failure = some failure) :
    submit close words handler client =
      (.error (.closed (.refused failure.message)), client.enlist words handler) := by
  have registered :
      (client.enlist words handler).dispatcher.register client.dispatcher.requests.length =
        .error (.closed (.refused failure.message)) := by
    simp [Dispatcher.register, enlist, failed]
  rw [submit_eq, registered]

/-- A closed connection issues no requests. -/
theorem IsOrderly.isTurnedAway_start
    (orderly : client.IsOrderly)
    (isClosed : client.link.isClosed = true)
    (words : List Word)
    (handler : Handler) :
    IsTurnedAway (fun error => (client.start words handler).1 = .error error) client
      (client.start words handler).2 := by
  cases mode : client.link.isAsynchronous with
  | false =>
      have switched : client.switch = (.error (.closed .alreadyClosed), client) := by
        simp [switch, mode, isClosed]
      have started : client.start words handler = (.error (.closed .alreadyClosed), client) := by
        simp [start, switched]
      rw [started]
      exact ⟨⟨_, rfl, rfl⟩, rfl⟩
  | true =>
      obtain ⟨failure, failed⟩ :=
        Option.ne_none_iff_exists'.mp (orderly.cutOff isClosed).failed
      have isSealed : (client.enlist words handler).link.IsSealed (· = client.link.stream) :=
        ⟨isClosed, rfl⟩
      have settled := (upholds_isSealed _).settle isSealed
      rw [start_of_isAsynchronous words handler mode,
        submit_of_failed Client.close words handler failed]
      exact ⟨⟨_, rfl, rfl⟩, settled.fact⟩

/-- A closed connection runs no command that can be encoded. -/
theorem IsOrderly.isTurnedAway_run
    (orderly : client.IsOrderly)
    (isClosed : client.link.isClosed = true)
    {words : List Word}
    {data : Bytes}
    (encodes : Wire.encodeSentence client.link.decoder.encoding words = .ok data) :
    IsTurnedAway (fun error => (client.run words).1 = .raised error) client
      (client.run words).2 := by
  cases mode : client.link.isAsynchronous with
  | true =>
      have started := orderly.isTurnedAway_start isClosed words (.callbacks none none)
      obtain ⟨error, raised, kind⟩ := started.error
      refine ⟨⟨error, ?_, kind⟩, ?_⟩
      · unfold Client.run runAsync
        rw [if_pos mode]
        cases result : client.start words (.callbacks none none) with
        | mk outcome after =>
            rw [result] at raised
            cases raised
            rfl
      · rw [run_of_isAsynchronous words mode]
        exact started.stream_eq
  | false =>
      have ran : client.run words = (.raised (.closed .alreadyClosed), client) := by
        simp [Client.run, mode, runSync, Client.write, encodes, isClosed]
      rw [ran]
      exact ⟨⟨_, rfl, rfl⟩, rfl⟩

/-! ## Lives -/

/-- A request that was issued in the course of a life. -/
def HasIssued
    (actions : List Action)
    (number : Nat)
    (client : Client) : Prop :=
  ∃ earlier words handler later after,
    actions = earlier ++ .operate (.start words handler) :: later ∧
    (client.live earlier).start words handler = (.ok number, after)

/-- What closing comes to in a life. The stream is closed as often as the connection, which is at
most once, and stays closed. When it is closed, the table is empty, every request that was issued is
complete, and commands are turned away; issuing one is what running it asynchronously, listening and
cancelling have in common. -/
structure ClosesForGood
    (actions : List Action)
    (client : Client) : Prop where
  closes_eq :
    (client.live actions).link.stream.closes = if (client.live actions).link.isClosed then 1 else 0
  isFinal : ∀ earlier later, actions = earlier ++ later →
    (client.live earlier).link.isClosed = true → (client.live actions).link.isClosed = true
  empty : (client.live actions).link.isClosed = true → (client.live actions).dispatcher.pending = []
  complete : ∀ {number}, (client.live actions).link.isClosed = true →
    client.HasIssued actions number →
    ∃ request, (client.live actions).request? number = some request ∧ request.isDone = true
  start : (client.live actions).link.isClosed = true → ∀ words handler,
    IsTurnedAway (fun error => ((client.live actions).start words handler).1 = .error error)
      (client.live actions) ((client.live actions).start words handler).2
  run : (client.live actions).link.isClosed = true → ∀ words data,
    Wire.encodeSentence (client.live actions).link.decoder.encoding words = .ok data →
    IsTurnedAway (fun error => ((client.live actions).run words).1 = .raised error)
      (client.live actions) ((client.live actions).run words).2

theorem live_append
    (earlier later : List Action)
    (client : Client) :
    client.live (earlier ++ later) = (client.live earlier).live later :=
  List.foldl_append

/-- A new client closes once, and for good. -/
theorem IsNew.closesForGood
    (new : client.IsNew)
    (actions : List Action) :
    client.ClosesForGood actions := by
  have orderly := new.isOrderly.live actions
  refine
    { closes_eq := ?_
      isFinal := ?_
      empty := fun isClosed => (orderly.cutOff isClosed).empty
      complete := ?_
      start := orderly.isTurnedAway_start
      run := fun isClosed _ _ => orderly.isTurnedAway_run isClosed }
  · rw [orderly.closes_eq]
    cases (client.live actions).link.isClosed with
    | true => rfl
    | false => rfl
  · rintro earlier later rfl isClosed
    rw [live_append]
    exact (offered_live_of_isClosed isClosed later).1
  · rintro number isClosed ⟨earlier, words, handler, later, after, rfl, issued⟩
    have accounted := (new.isOrderly.live earlier).isAccountedFor_of_start issued
    have performed : client.live (earlier ++ .operate (.start words handler) :: later) =
        after.live later := by
      rw [live_append]
      exact congrArg (live later) (congrArg Prod.snd issued)
    rw [performed] at isClosed ⊢
    obtain ⟨error, complete⟩ := (accounted.live later).complete isClosed
    obtain ⟨request, found, outcome_eq⟩ := Option.map_eq_some_iff.mp complete
    exact ⟨request, found, by rw [Request.isDone, outcome_eq]; rfl⟩

/-- A new client whose device answers two commands at once, the second of which has a tag. -/
def obliging : Client where
  link :=
    { stream :=
        { script :=
            [.chunks [.data [5, 0x21, 0x64, 0x6F, 0x6E, 0x65, 0]],
              .chunks [.data [5, 0x21, 0x64, 0x6F, 0x6E, 0x65,
                6, 0x2E, 0x74, 0x61, 0x67, 0x3D, 0x31, 0]]] }
      secure := .bool false
      cleartext := .bool false
      queueSize := .int 0
      decoder := { encoding := .text (literal "utf-8") } }

/-- A command is run, and another one is issued whose callback closes the connection. -/
def closingLife : List Action :=
  [.run [.text (literal "/a")],
    .operate (.start [.text (literal "/b")] (.callbacks none (some .close)))]

/-- The callback closes the connection for good, and its request is complete. -/
theorem closesForGood_obliging :
    obliging.IsNew ∧ obliging.ClosesForGood closingLife ∧
      (obliging.live closingLife).link.isClosed = true ∧
      (obliging.live closingLife).link.stream.closes = 1 ∧
      ∃ request, (obliging.live closingLife).request? 0 = some request ∧ request.isDone = true := by
  have new : obliging.IsNew := ⟨rfl, rfl, rfl, rfl, rfl, rfl⟩
  have closes := new.closesForGood closingLife
  have isClosed : (obliging.live closingLife).link.isClosed = true := rfl
  refine ⟨new, closes, isClosed, ?_, ?_⟩
  · rw [closes.closes_eq, if_pos isClosed]
  · exact closes.complete isClosed
      ⟨[.run [.text (literal "/a")]], _, _, [], _, rfl, rfl⟩

end Client
end RouterApi
