import RouterApi.Proofs.Client.Operations

/-!
# Requests that are never touched again

A request that is not in the table, and that does not hold up the reader, stays as it is: it is
neither handed a sentence nor completed, whatever the device sends and whatever the caller does with
the requests that it has in hand.
-/

namespace RouterApi
namespace Client

/-- A request rests if the table does not lead to it. -/
structure Rests
    (number : Nat)
    (request : Request)
    (client : Client) : Prop where
  known : client.request? number = some request
  unlisted : ∀ tag, (tag, number) ∉ client.dispatcher.pending

/-- A request is out of reach if neither the table nor the reader leads to it. -/
structure IsOutOfReach
    (number : Nat)
    (request : Request)
    (client : Client) : Prop where
  known : client.request? number = some request
  unlisted : ∀ tag, (tag, number) ∉ client.dispatcher.pending
  unheld : ∀ {held sentence later ending},
    client.link.reader = .stalled held sentence later ending → held ≠ number
  asynchronous : client.link.isAsynchronous = true

variable {number : Nat} {request : Request} {client after : Client}

/-- An update that does not concern the request, and adds no entries to the table. -/
theorem Rests.update
    (rests : client.Rests number request)
    (request_eq : after.request? number = client.request? number)
    (listed : ∀ entry ∈ after.dispatcher.pending, entry ∈ client.dispatcher.pending) :
    after.Rests number request where
  known := request_eq.trans rests.known
  unlisted tag member := rests.unlisted tag (listed _ member)

theorem Rests.modify
    (rests : client.Rests number request)
    {other : Nat}
    (different : other ≠ number)
    (change : Request → Request) :
    Rests number request (client.modify other change) :=
  rests.update (by rw [Session.request?_modify, if_neg different]) fun _ member => member

theorem Rests.lt_length (rests : client.Rests number request) :
    number < client.dispatcher.requests.length :=
  (List.getElem?_eq_some_iff.mp rests.known).1

/-- A request goes on resting, whatever is done with the others. -/
theorem steady_rests
    (number : Nat)
    (request : Request) :
    Steady (· ≠ number) (Rests number request) where
  entry {client tag other} rests member same := by
    subst same
    exact rests.unlisted tag member
  log _ _ _ rests := rests.update rfl fun _ member => member
  receipt _ rests := rests.update rfl fun _ member => member
  conclude error different _ _ rests := by
    have changed := rests.modify different fun request => { request with outcome := some error }
    unfold Session.conclude
    split
    · exact changed.update rfl fun _ member => member
    · exact changed
    · exact changed
  queue different _ _ _ rests := rests.modify different _
  fold _ different rests := rests.modify different _
  call _ _ _ _ rests := rests.update rfl fun _ member => member
  mark different _ _ rests := rests.modify different _
  remove tag rests := rests.update rfl fun _ => Assoc.mem_of_mem_erase
  unmatched _ _ rests := rests.update rfl fun _ member => member
  cutOff _ rests := rests.update rfl fun _ member => absurd member List.not_mem_nil
  enlist words handler rests :=
    rests.update (request?_enlist_of_lt words handler rests.lt_length) fun _ member => member
  enroll {client} words handler _ _ rests :=
    { known := (request?_enlist_of_lt words handler rests.lt_length).trans rests.known
      unlisted := by
        intro tag member
        rcases Assoc.mem_or_eq_of_mem_set member with earlier | same
        · exact rests.unlisted tag earlier
        · exact Nat.ne_of_lt rests.lt_length same }
  send _ rests _ := rests.update rfl fun _ member => member
  closing _ rests := rests.update rfl fun _ member => member

theorem IsOutOfReach.rests (away : client.IsOutOfReach number request) :
    client.Rests number request :=
  ⟨away.known, away.unlisted⟩

/-- A resting request is out of reach of a reader that it does not hold up. -/
theorem isOutOfReach_iff :
    client.IsOutOfReach number request ↔
      client.Rests number request ∧
        (∀ held sentence later ending,
          client.link.reader = .stalled held sentence later ending → held ≠ number) ∧
        client.link.isAsynchronous = true :=
  ⟨fun away => ⟨away.rests, fun _ _ _ _ => away.unheld, away.asynchronous⟩,
    fun ⟨rests, unheld, asynchronous⟩ =>
      ⟨rests.known, rests.unlisted, unheld _ _ _ _, asynchronous⟩⟩

/-- Being out of reach lasts. -/
theorem lasting_isOutOfReach
    (number : Nat)
    (request : Request) :
    Lasting (· ≠ number) (IsOutOfReach number request) where
  toSteady := by
    have unmoved := steady_link
      (fun link =>
        (∀ held sentence later ending,
          link.reader = .stalled held sentence later ending → held ≠ number) ∧
        link.isAsynchronous = true)
      (fun _ _ _ fact => fact) fun _ _ fact => fact
    have both := (steady_rests number request).and unmoved
    simp only [← isOutOfReach_iff] at both
    exact both
  holdup away := away.unheld
  take away := ⟨away.known, away.unlisted, away.unheld, away.asynchronous⟩
  idle _ away := ⟨away.known, away.unlisted, nofun, away.asynchronous⟩
  hold _ _ _ different _ away :=
    { known := away.known
      unlisted := away.unlisted
      unheld := by
        intro held sentence later ending reader
        cases reader
        exact different
      asynchronous := away.asynchronous }
  exit _ away := ⟨away.known, away.unlisted, nofun, away.asynchronous⟩
  asynchronous away := away.asynchronous
  items {client other} _ _ different away := by
    have set := away.rests.modify different
    exact ⟨(set _).known, (set _).unlisted, away.unheld, away.asynchronous⟩
  arrive _ away := ⟨away.known, away.unlisted, away.unheld, away.asynchronous⟩
  vanish away := ⟨away.known, away.unlisted, away.unheld, away.asynchronous⟩

/-- A request that is out of reach stays as it is, as long as the caller does not have it in hand.
-/
theorem IsOutOfReach.request?_performAll
    (away : client.IsOutOfReach number request)
    {operations : List Operation}
    (elsewhere : ∀ operation ∈ operations, operation.subject? ≠ some number) :
    (client.performAll operations).request? number = client.request? number := by
  have concerned : ∀ operation ∈ operations, ∀ other, operation.subject? = some other →
      other ≠ number := by
    intro operation member other subject same
    subst same
    exact elsewhere operation member subject
  have later := (lasting_isOutOfReach number request).performAll concerned away
  exact later.known.trans away.known.symm

end Client
end RouterApi
