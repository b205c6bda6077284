import RouterApi.Proofs.Client.Orderly

/-!
# Requests that are accounted for

A request that was issued is accounted for: either it is complete, or its tag leads to it. So
whatever cuts the connection off completes it.
-/

namespace RouterApi
namespace Client

/-- A request of an orderly client is accounted for if it is complete, or its tag leads to it. -/
structure IsAccountedFor
    (number : Nat)
    (client : Client) : Prop extends IsOrderly client where
  known : number < client.dispatcher.requests.length
  complete_or_registered :
    (∃ error, client.outcome? number = some (some error)) ∨
      client.lookup? (tagOf number) = some number

variable
  {client after : Client}
  {number : Nat}

/-- A request that is accounted for is complete once the connection is closed. -/
theorem IsAccountedFor.complete
    (accounted : client.IsAccountedFor number)
    (isClosed : client.link.isClosed = true) :
    ∃ error, client.outcome? number = some (some error) := by
  refine accounted.complete_or_registered.resolve_right fun registered => ?_
  rw [Session.lookup?, (accounted.cutOff isClosed).empty, Assoc.get?_nil] at registered
  contradiction

/-! ## Single steps -/

theorem IsAccountedFor.update
    (accounted : client.IsAccountedFor number)
    (orderly : after.IsOrderly)
    (known : number < after.dispatcher.requests.length)
    (outcome_eq : ∀ error, client.outcome? number = some (some error) →
      after.outcome? number = some (some error))
    (lookup_eq : client.lookup? (tagOf number) = some number →
      after.lookup? (tagOf number) = some number) :
    after.IsAccountedFor number where
  toIsOrderly := orderly
  known := known
  complete_or_registered :=
    accounted.complete_or_registered.imp
      (fun ⟨error, complete⟩ => ⟨error, outcome_eq error complete⟩) lookup_eq

/-- Changing something about a request other than its outcome. -/
theorem IsAccountedFor.modify
    (accounted : client.IsAccountedFor number)
    {other : Nat}
    {change : Request → Request}
    (orderly : IsOrderly (client.modify other change))
    (same : ∀ request, (change request).outcome = request.outcome) :
    IsAccountedFor number (client.modify other change) := by
  refine accounted.update orderly ?_ (fun _ => (Session.outcome?_modify same ..).trans) id
  rw [Session.length_modify]
  exact accounted.known

/-- An update that leaves the requests and the table alone. -/
theorem IsAccountedFor.of_dispatcher_eq
    (accounted : client.IsAccountedFor number)
    (orderly : after.IsOrderly)
    (requests_eq : after.dispatcher.requests = client.dispatcher.requests)
    (pending_eq : after.dispatcher.pending = client.dispatcher.pending) :
    after.IsAccountedFor number := by
  refine accounted.update orderly ?_ ?_ ?_
  · rw [requests_eq]
    exact accounted.known
  · exact fun _ => (Session.outcome?_of_requests_eq requests_eq number).trans
  · intro registered
    rwa [Session.lookup?, pending_eq]

/-- Another entry can be removed. -/
theorem IsAccountedFor.remove
    (accounted : client.IsAccountedFor number)
    {tag : Text}
    (different : tagOf number ≠ tag) :
    IsAccountedFor number (client.remove tag) :=
  accounted.update (accounted.toIsOrderly.remove tag) accounted.known (fun _ => id)
    (Session.lookup?_remove_of_ne client different).trans

/-! ## Completion -/

/-- Whatever completes all outstanding requests completes one that is accounted for. -/
theorem IsAccountedFor.swept
    (accounted : client.IsAccountedFor number)
    (orderly : after.IsOrderly)
    (known : number < after.dispatcher.requests.length)
    {error : Error}
    (outcome_eq : after.outcome? number =
      if number ∈ client.listed then (client.outcome? number).map (·.or (some (some error)))
      else client.outcome? number) :
    after.IsAccountedFor number where
  toIsOrderly := orderly
  known := known
  complete_or_registered := by
    refine .inl ?_
    rw [outcome_eq]
    rcases accounted.complete_or_registered with ⟨earlier, complete⟩ | registered
    · refine ⟨earlier, ?_⟩
      rw [complete]
      split
      · rfl
      · rfl
    · have listed : number ∈ client.listed :=
        List.mem_map_of_mem (Assoc.mem_of_get?_eq_some registered)
      obtain ⟨request, found⟩ : ∃ request, client.request? number = some request :=
        ⟨_, List.getElem?_eq_getElem accounted.known⟩
      rw [if_pos listed, Session.outcome?_of_request?_eq_some found]
      cases request.outcome with
      | none => exact ⟨_, rfl⟩
      | some earlier => exact ⟨earlier, rfl⟩

theorem IsAccountedFor.shutDown
    (accounted : client.IsAccountedFor number) :
    client.shutDown.IsAccountedFor number := by
  cases isClosed : client.link.isClosed with
  | true =>
      unfold Client.shutDown
      rw [if_pos isClosed]
      exact accounted
  | false =>
      exact accounted.swept accounted.toIsOrderly.shutDown
        ((steady_known number).shutDown accounted.known) (outcome?_shutDown isClosed number)

theorem IsAccountedFor.endReader
    (accounted : client.IsAccountedFor number)
    (error : Error) :
    (endReader error client).IsAccountedFor number :=
  accounted.swept (accounted.toIsOrderly.endReader error)
    (lt_length_endReader error accounted.known) (outcome?_endReader error client number)

theorem completes_isAccountedFor (number : Nat) :
    Session.Completes (fun _ => True) (IsAccountedFor number) where
  log level source message accounted :=
    accounted.of_dispatcher_eq
      (completes_isOrderly.log level source message accounted.toIsOrderly) rfl rfl
  receipt receipt accounted :=
    accounted.of_dispatcher_eq (completes_isOrderly.receipt receipt accounted.toIsOrderly) rfl rfl
  conclude error concerned found outstanding accounted := by
    refine accounted.update
      (completes_isOrderly.conclude error concerned found outstanding accounted.toIsOrderly)
      ((steady_known number).conclude error trivial found outstanding accounted.known)
      (fun earlier => (steady_outcome number earlier).conclude error trivial found outstanding) ?_
    intro registered
    rw [Session.lookup?, Session.dispatcher_conclude]
    exact registered
  queue concerned found handler offered accounted :=
    accounted.modify
      (completes_isOrderly.queue concerned found handler offered accounted.toIsOrderly)
      fun _ => rfl

/-- A request is taken out of the table and completed in one step. Only that request is concerned,
since no other one has its tag. -/
theorem IsAccountedFor.release
    (accounted : client.IsAccountedFor number)
    {tag : Text}
    {other : Nat}
    (belongs : Belongs tag other)
    (error : Option Error) :
    IsAccountedFor number
      ((client.remove tag).finishLogged Client.shutDown tag other error) := by
  by_cases own : number = other
  · subst own
    have removed := accounted.toIsOrderly.remove tag
    have known : number < (client.remove tag).dispatcher.requests.length := accounted.known
    refine
      { toIsOrderly :=
          completes_isOrderly.finishLogged IsOrderly.shutDown tag error trivial removed
        known :=
          (steady_known number).finishLogged (steady_known number).shutDown tag error trivial known
        complete_or_registered := .inl ?_ }
    obtain ⟨request, found⟩ : ∃ request, (client.remove tag).request? number = some request :=
      ⟨_, List.getElem?_eq_getElem known⟩
    cases isDone : request.isDone with
    | false => exact ⟨error, outcome?_finishLogged found isDone tag error⟩
    | true =>
        obtain ⟨earlier, outcome_eq⟩ := Option.isSome_iff_exists.mp isDone
        have complete : (client.remove tag).outcome? number = some (some earlier) := by
          rw [Session.outcome?_of_request?_eq_some found, outcome_eq]
        have steady := steady_outcome number earlier
        exact ⟨earlier, steady.finishLogged steady.shutDown tag error trivial complete⟩
  · have different : tagOf number ≠ tag := by
      rw [belongs]
      exact tagOf_ne own
    exact (completes_isAccountedFor number).finishLogged IsAccountedFor.shutDown tag error trivial
      (accounted.remove different)

/-! ## Submission -/

theorem writes_isAccountedFor (number : Nat) : Writes (IsAccountedFor number) where
  showing _ accounted := (completes_isAccountedFor number).log _ _ _ accounted
  send data accounted isOpen :=
    accounted.of_dispatcher_eq (transmits_isOrderly.send data accounted.toIsOrderly isOpen) rfl rfl

/-- A new request has another tag. -/
theorem IsAccountedFor.tagOf_ne_nextTag (accounted : client.IsAccountedFor number) :
    tagOf number ≠ client.nextTag := by
  unfold nextTag
  rw [accounted.minted_eq]
  exact tagOf_ne (Nat.ne_of_lt accounted.known)

theorem IsAccountedFor.submit
    (accounted : client.IsAccountedFor number)
    {close : Client → Client}
    (keeps : ∀ {client : Client}, client.IsAccountedFor number →
      (close client).IsAccountedFor number)
    (words : List Word)
    (handler : Handler) :
    (submit close words handler client).2.IsAccountedFor number := by
  have steady (earlier : Option Error) := steady_outcome number earlier
  have enlisted := (steady_known number).enlist words handler accounted.known
  refine (writes_isAccountedFor number).submit keeps words handler ?_ (fun working free => ?_)
    fun _ _ accountedAfter => accountedAfter.remove accounted.tagOf_ne_nextTag
  · exact accounted.update (transmits_isOrderly.enlist words handler accounted.toIsOrderly)
      enlisted (fun earlier => (steady earlier).enlist words handler) id
  · refine accounted.update
      (transmits_isOrderly.enroll words handler working free accounted.toIsOrderly) enlisted
      (fun earlier => (steady earlier).enroll words handler working free) ?_
    intro registered
    exact (Assoc.get?_set_of_ne accounted.tagOf_ne_nextTag ..).trans registered

/-! ## Lives -/

/-- A request stays accounted for. -/
theorem endures_isAccountedFor (number : Nat) :
    Endures Belongs (fun _ => True) (IsAccountedFor number) where
  entry accounted member := accounted.tagged member
  log := (completes_isAccountedFor number).log
  receipt := (completes_isAccountedFor number).receipt
  queue _ := (completes_isAccountedFor number).queue trivial
  fold sentence owned accounted :=
    accounted.modify (endures_isOrderly.fold sentence owned accounted.toIsOrderly) fun _ => rfl
  call sentence owned found handler accounted :=
    accounted.of_dispatcher_eq
      (endures_isOrderly.call sentence owned found handler accounted.toIsOrderly) rfl rfl
  mark owned found outstanding accounted :=
    accounted.modify (endures_isOrderly.mark owned found outstanding accounted.toIsOrderly)
      fun _ => rfl
  unmatched error sentence accounted :=
    accounted.of_dispatcher_eq
      (endures_isOrderly.unmatched error sentence accounted.toIsOrderly) rfl rfl
  release error owned accounted := accounted.release owned error
  cancel _ accounted := by
    rw [cancel_snd]
    exact accounted.submit IsAccountedFor.shutDown _ _
  close := IsAccountedFor.shutDown
  giveUp givenUp accounted := by
    rwa [eq_of_giveUp givenUp]
  fits _ := trivial
  holdup accounted := endures_isOrderly.holdup accounted.toIsOrderly
  take isOpen accounted :=
    accounted.of_dispatcher_eq (endures_isOrderly.take isOpen accounted.toIsOrderly) rfl rfl
  idle fits accounted :=
    accounted.of_dispatcher_eq (endures_isOrderly.idle fits accounted.toIsOrderly) rfl rfl
  hold sentence later owned fitting found accounted :=
    accounted.of_dispatcher_eq
      (endures_isOrderly.hold sentence later owned fitting found accounted.toIsOrderly) rfl rfl
  endReader error accounted := accounted.endReader error
  owner := endures_isOrderly.owner
  conclude error := (completes_isAccountedFor number).conclude error trivial
  items other queue items accounted :=
    accounted.modify (endures_isOrderly.items other queue items accounted.toIsOrderly) fun _ => rfl
  arrive chunks accounted :=
    accounted.of_dispatcher_eq (endures_isOrderly.arrive chunks accounted.toIsOrderly) rfl rfl
  vanish accounted :=
    accounted.of_dispatcher_eq (endures_isOrderly.vanish accounted.toIsOrderly) rfl rfl
  engage mode isOpen accounted :=
    accounted.of_dispatcher_eq (endures_isOrderly.engage mode isOpen accounted.toIsOrderly) rfl rfl
  exchange isOpen yields accounted :=
    accounted.of_dispatcher_eq (endures_isOrderly.exchange isOpen yields accounted.toIsOrderly) rfl
      rfl
  submit words handler keeps accounted := accounted.submit keeps words handler

/-- A request stays accounted for throughout a life. -/
theorem IsAccountedFor.live
    (accounted : client.IsAccountedFor number)
    (actions : List Action) :
    (client.live actions).IsAccountedFor number := by
  have endures := endures_isAccountedFor number
  refine endures.live ?_ actions accounted
  intro client words _ accounted
  exact (writes_isAccountedFor number).write endures.closeByCaller words accounted

/-- A request that has been issued is accounted for. -/
theorem IsOrderly.isAccountedFor_of_submit
    (orderly : client.IsOrderly)
    {close : Client → Client}
    {words : List Word}
    {handler : Handler}
    (submitted : submit close words handler client = (.ok number, after)) :
    after.IsAccountedFor number := by
  by_cases refused : client.dispatcher.failure ≠ none ∨ client.lookup? client.nextTag ≠ none
  · obtain ⟨error, -, failed⟩ := submit_of_refused close words handler refused
    rw [failed] at submitted
    cases submitted
  · obtain ⟨working, free⟩ := free_of_not_refused refused
    have tag_eq : client.nextTag = tagOf client.dispatcher.requests.length :=
      congrArg (fun minted => Text.ofNat (minted + 1)) orderly.minted_eq
    have enrolled : (client.enroll words handler).IsAccountedFor
        client.dispatcher.requests.length := by
      refine ⟨transmits_isOrderly.enroll words handler working free orderly, ?_, .inr ?_⟩
      · rw [length_enroll]
        exact Nat.lt_succ_self _
      · rw [← tag_eq]
        exact Assoc.get?_set_self ..
    rw [submit_of_free close words handler working free] at submitted
    have written := written_write close (client.tagged words) (client.enroll words handler)
    generalize Client.write close (client.tagged words) (client.enroll words handler) = result
      at written submitted
    cases written with
    | unencoded | refused | unshown | failed => cases submitted
    | @sent data shown stream encoded isOpen masked sent =>
        cases submitted
        have writes := writes_isAccountedFor client.dispatcher.requests.length
        have kept := writes.send data (writes.showing shown enrolled) isOpen
        have stream_eq : ((client.enroll words handler).showing shown).link.stream.send data =
            (.ok (), stream) := sent
        rwa [stream_eq] at kept

theorem IsOrderly.isAccountedFor_of_start
    (orderly : client.IsOrderly)
    {words : List Word}
    {handler : Handler}
    (issued : client.start words handler = (.ok number, after)) :
    after.IsAccountedFor number := by
  have switched := endures_isOrderly.switch orderly
  unfold start at issued
  cases result : client.switch with
  | mk outcome between =>
      rw [result] at switched issued
      cases outcome with
      | error error => cases issued
      | ok =>
          cases submitted : submit close words handler between with
          | mk outcome last =>
              simp only [submitted] at issued
              cases issued
              exact (endures_isAccountedFor number).settle
                (switched.isAccountedFor_of_submit submitted)

end Client
end RouterApi
