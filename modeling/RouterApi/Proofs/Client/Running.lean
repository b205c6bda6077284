import RouterApi.Proofs.Client.Operations

/-!
# Running clients

A client that has been switched to asynchronous operation keeps running: whatever the table and the
reader refer to is a request that was made.
-/

namespace RouterApi
namespace Client

/-- A client is running if it is asynchronous, and every entry of the table, and the reader if it is
held up, leads to a request. -/
structure IsRunning (client : Client) : Prop where
  asynchronous : client.link.isAsynchronous = true
  listed : ∀ entry ∈ client.dispatcher.pending, entry.2 < client.dispatcher.requests.length
  held : ∀ {number sentence later ending},
    client.link.reader = .stalled number sentence later ending →
      number < client.dispatcher.requests.length

variable {client after : Client}

theorem IsRunning.update
    (running : client.IsRunning)
    (length_eq : after.dispatcher.requests.length = client.dispatcher.requests.length)
    (listed : ∀ entry ∈ after.dispatcher.pending, entry ∈ client.dispatcher.pending)
    (reader_eq : after.link.reader = client.link.reader)
    (mode_eq : after.link.isAsynchronous = client.link.isAsynchronous) :
    after.IsRunning where
  asynchronous := mode_eq.trans running.asynchronous
  listed entry member := length_eq.symm ▸ running.listed entry (listed entry member)
  held reader := length_eq.symm ▸ running.held (reader_eq.symm.trans reader)

/-- A running client keeps running. -/
theorem lasting_isRunning : Lasting (fun _ => True) IsRunning where
  entry _ _ := trivial
  log _ _ _ running := running.update rfl (fun _ member => member) rfl rfl
  receipt _ running := running.update rfl (fun _ member => member) rfl rfl
  conclude error _ _ _ running := by
    apply running.update (Session.length_conclude ..)
    · unfold Session.conclude
      split <;> exact fun _ member => member
    · rw [Session.link_conclude]
    · rw [Session.link_conclude]
  queue _ _ _ _ running :=
    running.update (Session.length_modify ..) (fun _ member => member) rfl rfl
  fold _ _ running := running.update (Session.length_modify ..) (fun _ member => member) rfl rfl
  call _ _ _ _ running := running.update rfl (fun _ member => member) rfl rfl
  mark _ _ _ running := running.update (Session.length_modify ..) (fun _ member => member) rfl rfl
  remove _ running := running.update rfl (fun _ => Assoc.mem_of_mem_erase) rfl rfl
  unmatched _ _ running := running.update rfl (fun _ member => member) rfl rfl
  cutOff _ running :=
    running.update rfl (fun _ member => absurd member List.not_mem_nil) rfl rfl
  enlist {client} words handler running :=
    { asynchronous := running.asynchronous
      listed := fun entry member => by
        rw [length_enlist]
        exact Nat.lt_succ_of_lt (running.listed entry member)
      held := fun reader => by
        rw [length_enlist]
        exact Nat.lt_succ_of_lt (running.held reader) }
  enroll {client} words handler _ _ running :=
    { asynchronous := running.asynchronous
      listed := fun entry member => by
        rw [length_enroll]
        rcases Assoc.mem_or_eq_of_mem_set member with earlier | same
        · exact Nat.lt_succ_of_lt (running.listed entry earlier)
        · rw [same]
          exact Nat.lt_succ_self _
      held := fun reader => by
        rw [length_enroll]
        exact Nat.lt_succ_of_lt (running.held reader) }
  send _ running _ := running.update rfl (fun _ member => member) rfl rfl
  closing _ running := running.update rfl (fun _ member => member) rfl rfl
  holdup _ _ := trivial
  take running := running.update rfl (fun _ member => member) rfl rfl
  idle _ running := ⟨running.asynchronous, running.listed, nofun⟩
  hold _ _ _ _ known running :=
    { asynchronous := running.asynchronous
      listed := running.listed
      held := by
        intro held sentence later ending reader
        cases reader
        obtain ⟨request, found⟩ := Option.isSome_iff_exists.mp known
        exact (List.getElem?_eq_some_iff.mp found).1 }
  exit _ running := ⟨running.asynchronous, running.listed, nofun⟩
  asynchronous running := running.asynchronous
  items _ _ _ running :=
    running.update (Session.length_modify ..) (fun _ member => member) rfl rfl
  arrive _ running := running.update rfl (fun _ member => member) rfl rfl
  vanish running := running.update rfl (fun _ member => member) rfl rfl

end Client
end RouterApi
