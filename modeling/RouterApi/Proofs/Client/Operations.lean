import RouterApi.Proofs.Client.Stability

/-!
# Operations on a client

What can happen to an asynchronous connection once it is set up: its caller issues and cancels
commands, reads from listeners and closes it, and its device sends something or hangs up. A lasting
property is one that no sequence of operations destroys.
-/

namespace RouterApi
namespace Client

/-- Something that a caller or the device does. -/
inductive Operation
  | start (words : List Word) (handler : Handler)
  | cancelRequest (number : Nat)
  | fail (number : Nat) (error : Error)
  | takeNext (number : Nat)
  | takeAll (number : Nat)
  | close
  | receive (chunks : List Chunk)
  | hangUp

namespace Operation

/-- The client after an operation. -/
def perform
    (operation : Operation)
    (client : Client) : Client :=
  match operation with
  | start words handler => (client.start words handler).2
  | cancelRequest number => (client.cancelRequest number).2
  | fail number error => (client.fail number error).2
  | takeNext number => (client.takeNext? number).elim client Prod.snd
  | takeAll number => (client.takeAll? number).elim client Prod.snd
  | close => client.close
  | receive chunks => (client.receive chunks).2
  | hangUp => client.hangUp

/-- The request that a caller has in hand for an operation. -/
def subject? : Operation → Option Nat
  | cancelRequest number | fail number _ | takeNext number | takeAll number => some number
  | start _ _ | close | receive _ | hangUp => none

end Operation

/-- The client after several operations. -/
def performAll
    (operations : List Operation)
    (client : Client) : Client :=
  operations.foldl (fun client operation => operation.perform client) client

/-- A stable property of asynchronous clients lasts if it is also kept when a caller reads from a
listener, when bytes arrive and when the device hangs up. -/
structure Lasting
    (Concerned : Nat → Prop)
    (Property : Client → Prop) : Prop extends Stable Concerned Property where
  asynchronous : ∀ {client : Client}, Property client → client.link.isAsynchronous = true
  items : ∀ {client : Client} {number} queue items, Concerned number → Property client →
    Property (client.setItems number queue items)
  arrive : ∀ {client : Client} chunks, Property client →
    Property (client.modifyLink fun link => { link with stream := link.stream.arrive chunks })
  vanish : ∀ {client : Client}, Property client →
    Property (client.modifyLink fun link =>
      { link with stream := { link.stream with hungUp := true } })

variable
  {Concerned : Nat → Prop}
  {Property : Client → Prop}
  {client : Client}
  {number : Nat}

/-- Cancelling a request keeps a property if marking the request and issuing commands keep it. -/
theorem cancelRequest_of_start
    (mark : ∀ {request}, client.request? number = some request → request.isDone = false →
      Property client →
      Property (client.modify number fun request => { request with cancelled := true }))
    (start : ∀ {client : Client} words, Property client →
      Property (client.start words (.callbacks none none)).2)
    (property : Property client) :
    Property (client.cancelRequest number).2 := by
  refine Session.cancelRequest_of_mark mark ?_ property
  intro request _ marked
  have started := start (cancelCommand (.text request.tag)) marked
  simp only [cancel, runAsync]
  cases result : Client.start (cancelCommand (.text request.tag)) (.callbacks none none) _ with
  | mk outcome after =>
      rw [result] at started
      cases outcome with
      | ok => exact started
      | error => exact started

/-! ## Readers of listeners, and the device -/

/-- What a property needs in order to be kept when a caller reads from a listener, when bytes arrive
and when the device hangs up. After each of these steps the connection settles. -/
structure Settles
    (Concerned : Nat → Prop)
    (Property : Client → Prop) : Prop where
  settle : ∀ {client : Client}, Property client → Property (settle client)
  items : ∀ {client : Client} {number} queue items, Concerned number → Property client →
    Property (client.setItems number queue items)
  arrive : ∀ {client : Client} chunks, Property client →
    Property (client.modifyLink fun link => { link with stream := link.stream.arrive chunks })
  vanish : ∀ {client : Client}, Property client →
    Property (client.modifyLink fun link =>
      { link with stream := { link.stream with hungUp := true } })

theorem Settles.takeNext?
    (settles : Settles Concerned Property)
    (concerned : Concerned number)
    (property : Property client) :
    Property ((client.takeNext? number).elim client Prod.snd) := by
  unfold Client.takeNext? Session.takeNext?
  split
  · split
    · exact settles.settle property
    · exact settles.settle (settles.items _ _ concerned property)
    · exact settles.settle (settles.items _ _ concerned property)
  · exact property

theorem Settles.takeAll?
    (settles : Settles Concerned Property)
    (concerned : Concerned number)
    (property : Property client) :
    Property ((client.takeAll? number).elim client Prod.snd) := by
  unfold Client.takeAll? Session.takeAll?
  split
  · split
    · exact settles.settle (settles.items _ _ concerned property)
    · exact settles.settle property
  · exact property

theorem Settles.receive
    (settles : Settles Concerned Property)
    (chunks : List Chunk)
    (property : Property client) :
    Property (client.receive chunks).2 := by
  induction chunks generalizing client with
  | nil => exact property
  | cons chunk later inductionHypothesis =>
      unfold Client.receive
      split
      · exact property
      · exact inductionHypothesis (settles.settle (settles.arrive [chunk] property))

theorem Settles.hangUp
    (settles : Settles Concerned Property)
    (property : Property client) :
    Property client.hangUp := by
  unfold Client.hangUp
  split
  · exact settles.settle (settles.vanish property)
  · exact property

/-! ## Lasting properties -/

theorem Lasting.settles (lasting : Lasting Concerned Property) : Settles Concerned Property where
  settle := lasting.settle
  items := lasting.items
  arrive := lasting.arrive
  vanish := lasting.vanish

theorem Lasting.fail
    (lasting : Lasting Concerned Property)
    (error : Error)
    (concerned : Concerned number)
    (property : Property client) :
    Property (client.fail number error).2 :=
  lasting.settle (lasting.toStable.toSteady.finish lasting.toStable.close (some error) concerned
    property)

/-- An operation keeps a lasting property if the request that it is about is a concerned one. -/
theorem Lasting.perform
    (lasting : Lasting Concerned Property)
    {operation : Operation}
    (concerned : ∀ number, operation.subject? = some number → Concerned number)
    (property : Property client) :
    Property (operation.perform client) := by
  have start {client : Client} (words : List Word) (handler : Handler)
      (property : Property client) : Property (client.start words handler).2 :=
    lasting.start words handler (lasting.asynchronous property) property
  cases operation with
  | start words handler => exact start words handler property
  | cancelRequest number =>
      exact cancelRequest_of_start (lasting.toSession.mark (concerned number rfl))
        (fun words => start words _) property
  | fail number error => exact lasting.fail error (concerned number rfl) property
  | takeNext number => exact lasting.settles.takeNext? (concerned number rfl) property
  | takeAll number => exact lasting.settles.takeAll? (concerned number rfl) property
  | close => exact lasting.toStable.close property
  | receive chunks => exact lasting.settles.receive chunks property
  | hangUp => exact lasting.settles.hangUp property

/-- A sequence of operations keeps a lasting property. -/
theorem Lasting.performAll
    (lasting : Lasting Concerned Property)
    {operations : List Operation}
    (concerned : ∀ operation ∈ operations, ∀ number, operation.subject? = some number →
      Concerned number)
    (property : Property client) :
    Property (client.performAll operations) := by
  induction operations generalizing client with
  | nil => exact property
  | cons operation later inductionHypothesis =>
      obtain ⟨first, others⟩ := List.forall_mem_cons.mp concerned
      exact inductionHypothesis others (lasting.perform first property)

end Client
end RouterApi
