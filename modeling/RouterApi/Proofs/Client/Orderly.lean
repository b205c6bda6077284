import RouterApi.Proofs.Client.Ending
import RouterApi.Proofs.Client.Incidents
import RouterApi.Proofs.Client.Life
import RouterApi.Proofs.Client.Tags

/-!
# Orderly clients

What holds of a client between any two of its actions, from its first one on. Either it is open, has
not closed its stream and takes commands, or it is closed, has closed its stream just once and is
cut off. Its requests are tagged in the order in which they were made, and each request that was
issued either is complete, or its tag leads to it.
-/

namespace RouterApi

theorem Stream.closes_takeArrived (stream : Stream) :
    stream.takeArrived.2.closes = stream.closes := by
  unfold takeArrived
  split <;> rfl

namespace Client

/-- The tag of a request, which counts the requests made up to it. -/
def tagOf (number : Nat) : Text :=
  Text.ofNat (number + 1)

theorem tagOf_ne
    {number other : Nat}
    (different : number ≠ other) :
    tagOf number ≠ tagOf other :=
  fun same => different (Nat.succ.inj (Text.ofNat_injective same))

theorem tagOf_inj {number other : Nat} : tagOf number = tagOf other ↔ number = other :=
  ⟨fun same => by_contra fun different => tagOf_ne different same, congrArg tagOf⟩

/-- A tag and a number that belong together. -/
def Belongs
    (tag : Text)
    (number : Nat) : Prop :=
  tag = tagOf number

/-- A client is regular if its stream has been closed just once when it is closed, and not at all
while it is open, and if its requests are tagged in the order in which they were made. Only requests
that have been made are in the table. -/
structure IsRegular (client : Client) : Prop where
  closes_eq : client.link.stream.closes = client.link.isClosed.toNat
  minted_eq : client.dispatcher.minted = client.dispatcher.requests.length
  tagged : ∀ {tag number}, (tag, number) ∈ client.dispatcher.pending → Belongs tag number
  made : ∀ {tag number}, (tag, number) ∈ client.dispatcher.pending →
    number < client.dispatcher.requests.length

/-- A regular client is orderly if it is cut off when it is closed, and takes commands while it is
open. -/
structure IsOrderly (client : Client) : Prop extends IsRegular client where
  cutOff : client.link.isClosed = true → client.IsCutOff
  working : client.link.isClosed = false → client.dispatcher.failure = none

variable
  {client after : Client}
  {number : Nat}

/-! ## Regular clients -/

/-- An update that neither makes a request nor adds an entry to the table. -/
theorem IsRegular.update
    (regular : client.IsRegular)
    (closes_eq : after.link.stream.closes = client.link.stream.closes)
    (isClosed_eq : after.link.isClosed = client.link.isClosed)
    (minted_eq : after.dispatcher.minted = client.dispatcher.minted)
    (length_eq : after.dispatcher.requests.length = client.dispatcher.requests.length)
    (listed : ∀ entry ∈ after.dispatcher.pending, entry ∈ client.dispatcher.pending) :
    after.IsRegular where
  closes_eq := by rw [closes_eq, isClosed_eq, regular.closes_eq]
  minted_eq := by rw [minted_eq, length_eq, regular.minted_eq]
  tagged member := regular.tagged (listed _ member)
  made member := by
    rw [length_eq]
    exact regular.made (listed _ member)

theorem IsRegular.withStream
    (regular : client.IsRegular)
    {link : Connection}
    (closes_eq : link.stream.closes = client.link.stream.closes)
    (isClosed_eq : link.isClosed = client.link.isClosed) :
    IsRegular { client with link } :=
  regular.update closes_eq isClosed_eq rfl rfl fun _ member => member

theorem IsRegular.modify
    (regular : client.IsRegular)
    (number : Nat)
    (change : Request → Request) :
    IsRegular (client.modify number change) :=
  regular.update rfl rfl rfl (Session.length_modify ..) fun _ member => member

theorem stable_isRegular : Stable (fun _ => True) IsRegular where
  entry _ _ := trivial
  log _ _ _ regular := regular.update rfl rfl rfl rfl fun _ member => member
  receipt _ regular := regular.update rfl rfl rfl rfl fun _ member => member
  conclude {client number request} error _ _ _ regular := by
    have modified := regular.modify number fun request => { request with outcome := some error }
    refine modified.update ?_ ?_ ?_ ?_ ?_
    · rw [Session.link_conclude]
      rfl
    · rw [Session.link_conclude]
      rfl
    · rw [Session.dispatcher_conclude]
    · rw [Session.dispatcher_conclude]
    · rw [Session.dispatcher_conclude]
      exact fun _ member => member
  queue _ _ _ _ regular := regular.modify ..
  fold _ _ regular := regular.modify ..
  call _ _ _ _ regular := regular.update rfl rfl rfl rfl fun _ member => member
  mark _ _ _ regular := regular.modify ..
  remove _ regular := regular.update rfl rfl rfl rfl fun _ => Assoc.mem_of_mem_erase
  unmatched _ _ regular := regular.update rfl rfl rfl rfl fun _ member => member
  cutOff _ regular :=
    regular.update rfl rfl rfl rfl fun _ member => absurd member List.not_mem_nil
  enlist {client} words handler regular :=
    { closes_eq := regular.closes_eq
      minted_eq := by
        rw [length_enlist, ← regular.minted_eq]
        rfl
      tagged := regular.tagged
      made := fun member => by
        rw [length_enlist]
        exact Nat.lt_succ_of_lt (regular.made member) }
  enroll {client} words handler _ free regular := by
    have entries : (client.enroll words handler).dispatcher.pending =
        client.dispatcher.pending ++ [(client.nextTag, client.dispatcher.requests.length)] :=
      Assoc.set_of_get?_eq_none free _
    refine
      { closes_eq := regular.closes_eq
        minted_eq := ?_
        tagged := ?_
        made := ?_ }
    · rw [length_enroll, ← regular.minted_eq]
      rfl
    · intro tag number member
      rw [entries] at member
      rcases List.mem_append.mp member with earlier | new
      · exact regular.tagged earlier
      · cases List.mem_singleton.mp new
        exact congrArg tagOf regular.minted_eq
    · intro tag number member
      rw [entries] at member
      rw [length_enroll]
      rcases List.mem_append.mp member with earlier | new
      · exact Nat.lt_succ_of_lt (regular.made earlier)
      · cases List.mem_singleton.mp new
        exact Nat.lt_succ_self _
  send data regular _ := regular.withStream (Stream.closes_send data _) rfl
  closing {client} isOpen regular :=
    { closes_eq := by
        have closes_eq := regular.closes_eq
        rw [isOpen] at closes_eq
        exact congrArg (· + 1) closes_eq
      minted_eq := regular.minted_eq
      tagged := regular.tagged
      made := regular.made }
  holdup _ _ := trivial
  take regular := regular.withStream (Stream.closes_takeArrived _) rfl
  idle _ regular := regular.withStream rfl rfl
  hold _ _ _ _ _ regular := regular.withStream rfl rfl
  exit _ regular := regular.withStream rfl rfl

/-- The tag that a regular client mints next has not been used. -/
theorem IsRegular.lookup?_nextTag
    (regular : client.IsRegular) :
    client.lookup? client.nextTag = none := by
  cases found : client.lookup? client.nextTag with
  | none => rfl
  | some number =>
      have member := Assoc.mem_of_get?_eq_some found
      have unused : tagOf number ≠ tagOf client.dispatcher.requests.length :=
        tagOf_ne (Nat.ne_of_lt (regular.made member))
      rw [← regular.minted_eq] at unused
      exact absurd (regular.tagged member).symm unused

/-! ## Orderly clients -/

/-- An update that neither closes the connection nor adds an entry to the table. -/
theorem IsOrderly.update
    (orderly : client.IsOrderly)
    (regular : after.IsRegular)
    (isClosed_eq : after.link.isClosed = client.link.isClosed)
    (failure_eq : after.dispatcher.failure = client.dispatcher.failure)
    (listed : ∀ entry ∈ after.dispatcher.pending, entry ∈ client.dispatcher.pending) :
    after.IsOrderly where
  toIsRegular := regular
  cutOff isClosed := by
    have before := orderly.cutOff (isClosed_eq.symm.trans isClosed)
    refine ⟨failure_eq ▸ before.failed, ?_, isClosed⟩
    refine List.eq_nil_iff_forall_not_mem.mpr fun entry member => ?_
    have earlier := listed entry member
    rw [before.empty] at earlier
    exact List.not_mem_nil earlier
  working isOpen := failure_eq.trans (orderly.working (isClosed_eq.symm.trans isOpen))

/-- A regular client that is cut off is orderly. -/
theorem IsRegular.orderly
    (regular : client.IsRegular)
    (cutOff : client.IsCutOff) :
    client.IsOrderly where
  toIsRegular := regular
  cutOff _ := cutOff
  working isOpen := by
    rw [cutOff.isClosed] at isOpen
    contradiction

theorem IsOrderly.shutDown (orderly : client.IsOrderly) : client.shutDown.IsOrderly := by
  cases isClosed : client.link.isClosed with
  | true =>
      unfold Client.shutDown
      rw [if_pos isClosed]
      exact orderly
  | false =>
      exact (stable_isRegular.toSteady.shutDown orderly.toIsRegular).orderly
        (isCutOff_shutDown isClosed)

theorem IsOrderly.endReader
    (orderly : client.IsOrderly)
    (error : Error) :
    (endReader error client).IsOrderly :=
  (stable_isRegular.endReader error orderly.toIsRegular).orderly (isCutOff_endReader error client)

theorem completes_isOrderly : Session.Completes (fun _ => True) IsOrderly where
  log _ _ _ orderly :=
    orderly.update (stable_isRegular.log _ _ _ orderly.toIsRegular) rfl rfl fun _ member => member
  receipt _ orderly :=
    orderly.update (stable_isRegular.receipt _ orderly.toIsRegular) rfl rfl fun _ member => member
  conclude {client number request} error concerned known outstanding orderly := by
    refine orderly.update
      (stable_isRegular.conclude error concerned known outstanding orderly.toIsRegular) ?_ ?_ ?_
    · rw [Session.link_conclude]
    · rw [Session.dispatcher_conclude]
      rfl
    · rw [Session.dispatcher_conclude]
      exact fun _ member => member
  queue concerned known handler offered orderly :=
    orderly.update
      (stable_isRegular.queue concerned known handler offered orderly.toIsRegular) rfl rfl
      fun _ member => member

theorem transmits_isOrderly : Transmits IsOrderly where
  showing _ orderly := completes_isOrderly.log _ _ _ orderly
  send data orderly isOpen :=
    orderly.update (stable_isRegular.send data orderly.toIsRegular isOpen) rfl rfl
      fun _ member => member
  enlist words handler orderly :=
    orderly.update (stable_isRegular.enlist words handler orderly.toIsRegular) rfl rfl
      fun _ member => member
  enroll words handler working free orderly :=
    { toIsRegular := stable_isRegular.enroll words handler working free orderly.toIsRegular
      cutOff := fun isClosed => absurd working (orderly.cutOff isClosed).failed
      working := fun _ => working }
  remove tag orderly :=
    orderly.update (stable_isRegular.remove tag orderly.toIsRegular) rfl rfl
      fun _ => Assoc.mem_of_mem_erase

theorem IsOrderly.remove
    (orderly : client.IsOrderly)
    (tag : Text) :
    IsOrderly (client.remove tag) :=
  transmits_isOrderly.remove tag orderly

/-- A client stays orderly. -/
theorem endures_isOrderly : Endures Belongs (fun _ => True) IsOrderly where
  entry orderly member := orderly.tagged member
  log := completes_isOrderly.log
  receipt := completes_isOrderly.receipt
  queue _ := completes_isOrderly.queue trivial
  fold sentence _ orderly :=
    orderly.update (stable_isRegular.fold sentence trivial orderly.toIsRegular) rfl rfl
      fun _ member => member
  call sentence _ known handler orderly :=
    orderly.update (stable_isRegular.call sentence trivial known handler orderly.toIsRegular) rfl
      rfl fun _ member => member
  mark _ known outstanding orderly :=
    orderly.update (stable_isRegular.mark trivial known outstanding orderly.toIsRegular) rfl rfl
      fun _ member => member
  unmatched error sentence orderly :=
    orderly.update (stable_isRegular.unmatched error sentence orderly.toIsRegular) rfl rfl
      fun _ member => member
  release {_ tag _} error _ orderly :=
    completes_isOrderly.finishLogged IsOrderly.shutDown tag error trivial (orderly.remove tag)
  cancel _ orderly := transmits_isOrderly.cancel IsOrderly.shutDown _ orderly
  close := IsOrderly.shutDown
  giveUp givenUp orderly := by
    rwa [eq_of_giveUp givenUp]
  fits _ := trivial
  holdup {_ number _ _ _} _ _ := ⟨⟨tagOf number, rfl⟩, fun _ _ => trivial⟩
  take _ orderly :=
    orderly.update (stable_isRegular.take orderly.toIsRegular) rfl rfl fun _ member => member
  idle {_ decoder} _ orderly :=
    orderly.update (stable_isRegular.idle decoder orderly.toIsRegular) rfl rfl
      fun _ member => member
  hold _ _ _ _ _ orderly :=
    orderly.update (orderly.toIsRegular.withStream rfl rfl) rfl rfl fun _ member => member
  endReader error orderly := orderly.endReader error
  owner number := ⟨tagOf number, rfl⟩
  conclude error := completes_isOrderly.conclude error trivial
  items number queue items orderly :=
    orderly.update (orderly.toIsRegular.modify ..) rfl rfl fun _ member => member
  arrive _ orderly :=
    orderly.update (orderly.toIsRegular.withStream rfl rfl) rfl rfl fun _ member => member
  vanish orderly :=
    orderly.update (orderly.toIsRegular.withStream rfl rfl) rfl rfl fun _ member => member
  engage _ _ orderly :=
    orderly.update (orderly.toIsRegular.withStream rfl rfl) rfl rfl fun _ member => member
  exchange _ yields orderly :=
    orderly.update (orderly.toIsRegular.withStream yields.closes_eq rfl) rfl rfl
      fun _ member => member
  submit words handler keeps := transmits_isOrderly.submit keeps words handler

theorem IsOrderly.write
    (orderly : client.IsOrderly)
    (words : List Word) :
    (write close words client).2.IsOrderly :=
  transmits_isOrderly.toWrites.write endures_isOrderly.closeByCaller words orderly

/-- A client stays orderly throughout its life. -/
theorem IsOrderly.live
    (orderly : client.IsOrderly)
    (actions : List Action) :
    (client.live actions).IsOrderly :=
  endures_isOrderly.live (fun words _ orderly => orderly.write words) actions orderly

end Client
end RouterApi
