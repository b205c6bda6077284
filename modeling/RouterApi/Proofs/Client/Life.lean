import RouterApi.Proofs.Client.Exchanges
import RouterApi.Proofs.Client.Operations
import RouterApi.Proofs.Login

/-!
# Lives of clients

The life of a client: it logs in, runs commands, is switched to asynchronous operation, and then
everything can happen to it that can happen to an asynchronous connection, in any order. A property
endures if each step keeps it that these actions are made of. Writing a command of a synchronous
client is left out, since it may change what is to be kept.
-/

namespace RouterApi
namespace Client

/-- Something that a caller does, or the device. -/
inductive Action
  | login (username password : Value)
  | run (words : List Word)
  | switch
  | operate (operation : Operation)

namespace Action

/-- The client after an action. -/
def perform
    (action : Action)
    (client : Client) : Client :=
  match action with
  | login username password => (client.login username password).2
  | run words => (client.run words).2
  | switch => client.switch.2
  | operate operation => operation.perform client

end Action

/-- The client after several actions. -/
def live
    (actions : List Action)
    (client : Client) : Client :=
  actions.foldl (fun client action => action.perform client) client

/-- A property of clients is tolerant if it is upheld, and kept by whatever else can happen to a
client, other than that its caller issues a command. A caller may have any request in hand. -/
structure Tolerates
    (Owns : Text → Nat → Prop)
    (Fits : Value → Prop)
    (Property : Client → Prop) : Prop extends Upholds Owns Fits Property where
  owner : ∀ number, ∃ tag, Owns tag number
  conclude : ∀ {client : Client} {number request} error, client.request? number = some request →
    request.isDone = false → Property client →
    Property (Session.conclude number request error client)
  items : ∀ {client : Client} number queue items, Property client →
    Property (client.setItems number queue items)
  arrive : ∀ {client : Client} chunks, Property client →
    Property (client.modifyLink fun link => { link with stream := link.stream.arrive chunks })
  vanish : ∀ {client : Client}, Property client →
    Property (client.modifyLink fun link =>
      { link with stream := { link.stream with hungUp := true } })
  engage : ∀ {client : Client}, client.link.isAsynchronous = false →
    client.link.isClosed = false → Property client →
    Property (client.modifyLink ({ · with isAsynchronous := true, reader := .reading }))
  exchange : ∀ {client : Client} {result decoder stream}, client.link.isClosed = false →
    Stream.Yields client.link.decoder client.link.stream (result, decoder, stream) →
    Property client → Property (client.modifyLink ({ · with decoder, stream }))

/-- A property of clients endures if it is tolerant, and kept when a command is submitted, in
whatever way the connection is closed if that fails. -/
structure Endures
    (Owns : Text → Nat → Prop)
    (Fits : Value → Prop)
    (Property : Client → Prop) : Prop extends Tolerates Owns Fits Property where
  submit : ∀ {close : Client → Client} {client} words handler,
    (∀ {client}, Property client → Property (close client)) → Property client →
    Property (submit close words handler client).2

variable
  {Owns : Text → Nat → Prop}
  {Fits : Value → Prop}
  {Property : Client → Prop}
  {client : Client}

/-- A steady property that does not depend on the connection endures, if reading from a listener
keeps it. -/
theorem Steady.endures
    (steady : Steady (fun _ => True) Property)
    (relink : ∀ {client : Client} link, Property client → Property { client with link })
    (items : ∀ {client : Client} number queue items, Property client →
      Property (client.setItems number queue items)) :
    Endures (fun _ _ => True) (fun _ => True) Property where
  toSession := steady.stableUnder.upholds
  fits _ := trivial
  holdup _ _ := ⟨⟨[], trivial⟩, fun _ _ => trivial⟩
  take _ := relink _
  idle _ := relink _
  hold _ _ _ _ _ := relink _
  endReader := steady.shuts.endReader fun _ => relink _
  owner _ := ⟨[], trivial⟩
  conclude error := steady.conclude error trivial
  items := items
  arrive _ := relink _
  vanish := relink _
  engage _ _ := relink _
  exchange _ _ := relink _
  submit words handler keeps := steady.transmits.submit keeps words handler

/-! ## Asynchronous operation -/

theorem Tolerates.switch
    (tolerates : Tolerates Owns Fits Property)
    (property : Property client) :
    Property client.switch.2 := by
  unfold Client.switch
  cases mode : client.link.isAsynchronous with
  | true => exact property
  | false =>
      cases isClosed : client.link.isClosed with
      | true => exact property
      | false =>
          have engaged := tolerates.engage mode isClosed property
          exact tolerates.log _ _ _
            (tolerates.settle (tolerates.consumeFrom (tolerates.fits engaged) engaged))

/-- What a tolerant property needs in order to be kept when requests are completed. -/
theorem Tolerates.completes (tolerates : Tolerates Owns Fits Property) :
    Session.Completes (fun _ => True) Property where
  log := tolerates.log
  receipt := tolerates.receipt
  conclude error _ := tolerates.conclude error
  queue {_ number _ _ _ _} _ := by
    obtain ⟨tag, owned⟩ := tolerates.owner number
    exact tolerates.queue owned

theorem Tolerates.fail
    (tolerates : Tolerates Owns Fits Property)
    (number : Nat)
    (error : Error)
    (property : Property client) :
    Property (client.fail number error).2 :=
  tolerates.settle
    (tolerates.completes.finish tolerates.closeByCaller (some error) trivial property)

theorem Tolerates.settles (tolerates : Tolerates Owns Fits Property) :
    Settles (fun _ => True) Property where
  settle := tolerates.settle
  items queue items _ := tolerates.items _ queue items
  arrive := tolerates.arrive
  vanish := tolerates.vanish

theorem Endures.start
    (endures : Endures Owns Fits Property)
    (words : List Word)
    (handler : Handler)
    (property : Property client) :
    Property (client.start words handler).2 := by
  have switched := endures.switch property
  unfold Client.start
  cases result : client.switch with
  | mk outcome after =>
      rw [result] at switched
      cases outcome with
      | error error => exact switched
      | ok => exact endures.settle (endures.submit words handler endures.closeByCaller switched)

theorem Endures.cancelRequest
    (endures : Endures Owns Fits Property)
    (number : Nat)
    (property : Property client) :
    Property (client.cancelRequest number).2 := by
  obtain ⟨tag, owned⟩ := endures.owner number
  exact cancelRequest_of_start (endures.mark owned) (fun words => endures.start words _) property

/-- An operation keeps a property that endures. -/
theorem Endures.operate
    (endures : Endures Owns Fits Property)
    (operation : Operation)
    (property : Property client) :
    Property (operation.perform client) := by
  cases operation with
  | start words handler => exact endures.start words handler property
  | cancelRequest number => exact endures.cancelRequest number property
  | fail number error => exact endures.fail number error property
  | takeNext number => exact endures.settles.takeNext? trivial property
  | takeAll number => exact endures.settles.takeAll? trivial property
  | close => exact endures.closeByCaller property
  | receive chunks => exact endures.settles.receive chunks property
  | hangUp => exact endures.settles.hangUp property

/-! ## Lives -/

theorem Tolerates.converses (tolerates : Tolerates Owns Fits Property) : Converses Property where
  log := tolerates.log
  exchange := tolerates.exchange
  close := tolerates.closeByCaller

theorem run_of_isAsynchronous
    (words : List Word)
    (asynchronous : client.link.isAsynchronous = true) :
    (client.run words).2 = (client.start words (.callbacks none none)).2 := by
  unfold run
  rw [if_pos asynchronous, runAsync]
  cases client.start words (.callbacks none none) with
  | mk outcome after =>
      cases outcome with
      | ok => rfl
      | error => rfl

/-- Running a command keeps a property that endures, if writing the command of a synchronous client
does. -/
theorem Endures.run
    (endures : Endures Owns Fits Property)
    {words : List Word}
    (writes : client.link.isAsynchronous = false → Property (write close words client).2)
    (property : Property client) :
    Property (client.run words).2 := by
  cases mode : client.link.isAsynchronous with
  | true =>
      rw [run_of_isAsynchronous words mode]
      exact endures.start words _ property
  | false => exact endures.converses.run mode (writes mode)

/-- A login keeps what entries to the log and runs keep. -/
theorem login_of_run
    (log : ∀ {client : Client} level source message, Property client →
      Property (client.log level source message))
    (run : ∀ {client : Client} words, Property client → Property (client.run words).2)
    (username password : Value)
    (property : Property client) :
    Property (client.login username password).2 := by
  have runs := Login.runs_login username password client
  generalize (client.login username password).2 = after at runs ⊢
  have started : Property (Login.logStart username client) := log _ _ _ property
  cases runs with
  | first ran noted =>
      have first := run ((Login.firstCommand username password client).map .text) started
      rw [ran] at first
      rcases noted with rfl | rfl
      · exact first
      · exact log _ _ _ first
  | @second reply between digits challenge response outcome last _ ran _ _ _ answered noted =>
      have first := run ((Login.firstCommand username password client).map .text) started
      rw [ran] at first
      have answering : Property (Login.answering username between) := log _ _ _ first
      have second := run ((Login.answerCommand username response).map .text) answering
      rw [answered] at second
      rcases noted with rfl | rfl
      · exact second
      · exact log _ _ _ second

/-- Every action keeps a property that endures, if writing a command of a synchronous client
does. -/
theorem Endures.perform
    (endures : Endures Owns Fits Property)
    (writes : ∀ {client : Client} words, client.link.isAsynchronous = false → Property client →
      Property (write close words client).2)
    (action : Action)
    (property : Property client) :
    Property (action.perform client) := by
  have runs {client : Client} (words : List Word) (property : Property client) :
      Property (client.run words).2 :=
    endures.run (fun mode => writes words mode property) property
  cases action with
  | login username password => exact login_of_run endures.log runs username password property
  | run words => exact runs words property
  | switch => exact endures.switch property
  | operate operation => exact endures.operate operation property

/-- A whole life keeps it as well. -/
theorem Endures.live
    (endures : Endures Owns Fits Property)
    (writes : ∀ {client : Client} words, client.link.isAsynchronous = false → Property client →
      Property (write close words client).2)
    (actions : List Action)
    (property : Property client) :
    Property (client.live actions) := by
  induction actions generalizing client with
  | nil => exact property
  | cons action later inductionHypothesis =>
      exact inductionHypothesis (endures.perform writes action property)

end Client
end RouterApi
