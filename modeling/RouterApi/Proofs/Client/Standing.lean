import RouterApi.Proofs.Client.Closing
import RouterApi.Proofs.Session.Failing
import RouterApi.Session.Listening

/-!
# What a request has received

How a request will end depends on its reply so far and on whether it has been cancelled. Only the
sentences dispatched to it change the reply, and only a cancellation of the request itself cancels
it. Everything else, the completion of the request included, leaves both alone.
-/

namespace RouterApi

/-- Whether the callback for the data of a request cancels the request. -/
def Handler.asksToCancel : Handler → Bool
  | .callbacks (some .cancel) _ => true
  | .callbacks _ _ | .listener _ => false

/-- What decides how a request ends, and its tag. -/
structure Standing where
  tag : Text
  asksToCancel : Bool
  reply : Reply
  cancelled : Bool

/-- The standing of a request. -/
def Request.standing (request : Request) : Standing where
  tag := request.tag
  asksToCancel := request.handler.asksToCancel
  reply := request.reply
  cancelled := request.cancelled

namespace Standing

/-- The standing once the request has been cancelled, if it has. -/
def mark
    (isCancelled : Bool)
    (standing : Standing) : Standing :=
  { standing with cancelled := standing.cancelled || isCancelled }

/-- The standing once a sentence has been folded into the reply. -/
def fold
    (sentence : Sentence)
    (standing : Standing) : Standing :=
  { standing with reply := standing.reply.process sentence }

/-- The standing once a sentence has been dispatched to the request. -/
def receive
    (sentence : Sentence)
    (standing : Standing) : Standing :=
  (standing.fold sentence).mark (standing.asksToCancel && sentence.control = .data)

@[simp] theorem mark_false (standing : Standing) : standing.mark false = standing := by
  rw [mark, Bool.or_false]

end Standing

namespace Session

variable {Λ : Type} {session : Session Λ} {number : Nat} {standing : Standing}

/-- The standing of the request of a number. -/
def standing?
    (number : Nat)
    (session : Session Λ) : Option Standing :=
  (session.request? number).map Request.standing

theorem exists_request_of_standing? (known : session.standing? number = some standing) :
    ∃ request, session.request? number = some request ∧ request.standing = standing :=
  Option.map_eq_some_iff.mp known

/-- Changing something else about a request keeps the standings. -/
theorem standing?_modify
    {change : Request → Request}
    {number : Nat}
    (same : ∀ request, session.request? number = some request →
      (change request).standing = request.standing)
    (other : Nat) :
    (session.modify number change).standing? other = session.standing? other := by
  unfold standing?
  rw [request?_modify]
  split
  · rename_i own
    subst own
    cases known : session.request? number with
    | none => rfl
    | some request => exact congrArg some (same request known)
  · rfl

theorem standing?_modify_of_ne
    {other : Nat}
    (different : number ≠ other)
    (change : Request → Request)
    (session : Session Λ) :
    (session.modify number change).standing? other = session.standing? other := by
  unfold standing?
  rw [request?_modify, if_neg different]

/-- Completing requests keeps the standings. -/
theorem settles_standing
    (number : Nat)
    (standing : Standing) :
    Settles (fun _ => True)
      fun session : Session Λ => session.standing? number = some standing where
  entry _ _ := trivial
  log _ _ _ known := known
  receipt _ known := known
  conclude {session other request} error _ _ _ known := by
    show ((session.conclude other request error).request? number).map Request.standing = _
    rw [request?_conclude]
    refine (standing?_modify ?_ number).trans known
    exact fun _ _ => rfl
  queue _ found handler _ known := by
    refine (standing?_modify ?_ number).trans known
    intro request requestFound
    cases found.symm.trans requestFound
    simp [Request.standing, handler, Handler.asksToCancel]
  cutOff _ known := known

end Session

namespace Client

open Session (standing?_modify standing?_modify_of_ne)

/-- A property of clients is retained if completing requests, submitting commands and closing the
connection keep it. -/
structure Retains (Property : Client → Prop) : Prop extends
    Shuts (fun _ => True) Property, Transmits Property

variable
  {Property : Client → Prop}
  {client : Client}
  {number other : Nat}
  {standing : Standing}
  {sentence : Sentence}

theorem Retains.shutDown
    (retains : Retains Property)
    (property : Property client) :
    Property client.shutDown :=
  retains.toShuts.shutDown property

theorem Retains.hostCancel
    (retains : Retains Property)
    (tag : Text)
    (property : Property client) :
    Property (readerHost.cancel tag client).2 :=
  retains.toTransmits.cancel retains.shutDown tag property

theorem Retains.finishLogged
    (retains : Retains Property)
    (label : Text)
    (number : Nat)
    (error : Option Error)
    (property : Property client) :
    Property (client.finishLogged Client.shutDown label number error) :=
  retains.toSettles.finishLogged retains.shutDown label error trivial property

/-- A request keeps its standing. -/
theorem retains_standing
    (number : Nat)
    (standing : Standing) :
    Retains fun client => client.standing? number = some standing where
  toSettles := Session.settles_standing number standing
  enlist {client} words handler known := by
    obtain ⟨request, found, same⟩ := Session.exists_request_of_standing? known
    have bound := (List.getElem?_eq_some_iff.mp found).1
    rw [Session.standing?, request?_enlist_of_lt words handler bound, found, ← same]
    rfl
  enroll {client} words handler _ _ known := by
    obtain ⟨request, found, same⟩ := Session.exists_request_of_standing? known
    have bound := (List.getElem?_eq_some_iff.mp found).1
    have enrolled : (client.enroll words handler).request? number = client.request? number :=
      request?_enlist_of_lt words handler bound
    rw [Session.standing?, enrolled, found, ← same]
    rfl
  showing _ known := known
  send _ known _ := known
  remove _ known := known
  closing _ known := known

/-! ## Cancellation and delivery -/

/-- Cancelling a request that is incomplete marks it, and no other. -/
theorem standing?_cancelRequest
    (known : client.standing? number = some standing)
    (incomplete : client.outcome? number = some none)
    (other : Nat) :
    (Session.cancelRequest readerHost.cancel other client).2.standing? number =
      some (standing.mark (other == number)) := by
  have cancels := Session.cancels_cancelRequest readerHost.cancel other client
  generalize (Session.cancelRequest readerHost.cancel other client).2 = after at cancels ⊢
  obtain ⟨own, found, same⟩ := Session.exists_request_of_standing? known
  cases cancels with
  | idle settled =>
      have different : (other == number) = false := by
        refine beq_eq_false_iff_ne.mpr fun equal => ?_
        rw [Session.outcome?_of_request?_eq_some found] at incomplete
        have done := settled own (equal ▸ found)
        rw [Request.isDone, Option.some.inj incomplete] at done
        contradiction
      rw [different, Standing.mark_false]
      exact known
  | asked =>
      refine (retains_standing number _).hostCancel _ ?_
      by_cases equal : other = number
      · subst equal
        rw [Session.standing?, Session.request?_modify, if_pos rfl, found, ← same]
        simp [Request.standing, Standing.mark]
      · rw [standing?_modify_of_ne equal, known, beq_eq_false_iff_ne.mpr equal, Standing.mark_false]

/-- Delivering a sentence marks the request if its callback cancels it, and no other. -/
theorem standing?_deliver
    (known : client.standing? number = some standing)
    (incomplete : client.outcome? number = some none)
    (other : Nat)
    (sentence : Sentence) :
    (client.deliver readerHost other sentence).2.standing? number =
      some (standing.mark (standing.asksToCancel && other == number)) := by
  obtain ⟨own, found, same⟩ := Session.exists_request_of_standing? known
  -- A request that does not cancel itself is not marked, and neither is any other one.
  have asks_eq {request : Request} (requestFound : client.request? other = some request) :
      (standing.asksToCancel && other == number) =
        (request.handler.asksToCancel && other == number) := by
    by_cases equal : other = number
    · subst equal
      cases found.symm.trans requestFound
      rw [← same]
      rfl
    · rw [beq_eq_false_iff_ne.mpr equal, Bool.and_false, Bool.and_false]
  unfold Session.deliver
  cases otherFound : client.request? other with
  | none =>
      have different : (other == number) = false :=
        beq_eq_false_iff_ne.mpr fun equal => by simp [equal, found] at otherFound
      rw [different, Bool.and_false, Standing.mark_false]
      exact known
  | some request =>
      rw [asks_eq otherFound]
      cases handler : request.handler with
      | listener queue =>
          simp only [handler, Handler.asksToCancel, Bool.false_and, Standing.mark_false]
          cases offered : queue.offer (some sentence) with
          | taken changed =>
              exact (Session.settles_standing number standing).queue trivial otherFound handler
                offered known
          | failed failure => exact known
          | full =>
              cases readerHost.giveUp? client.link with
              | none => exact known
              | some link => exact known
      | callbacks onSentence onComplete =>
          cases onSentence with
          | none =>
              simp only [handler, Handler.asksToCancel, Bool.false_and, Standing.mark_false]
              exact known
          | some reaction =>
              have called : (client.note (.delivered request.tag sentence)).standing? number =
                  some standing := known
              cases reaction with
              | observe | raise failure =>
                  simp only [handler, Handler.asksToCancel, Bool.false_and, Standing.mark_false]
                  exact called
              | close =>
                  simp only [handler, Handler.asksToCancel, Bool.false_and, Standing.mark_false]
                  exact (retains_standing number standing).shutDown called
              | cancel =>
                  have cancelled := standing?_cancelRequest called incomplete other
                  simp only [handler, Handler.asksToCancel, Bool.true_and]
                  cases result : Session.cancelRequest readerHost.cancel other
                      (client.note (.delivered request.tag sentence)) with
                  | mk receipt after =>
                      rw [result] at cancelled
                      cases receipt with
                      | ok receipt => exact cancelled
                      | error failure => exact cancelled

/-! ## Dispatch -/

theorem Retains.abandon
    (retains : Retains Property)
    (tag : Text)
    (number : Nat)
    (error : Error)
    (property : Property client) :
    Property (client.abandon readerHost tag number error) :=
  retains.finishLogged tag number (some error)
    (retains.toTransmits.remove tag (retains.log _ _ _ property))

theorem Retains.retire
    (retains : Retains Property)
    (tag : Text)
    (number : Nat)
    (property : Property client) :
    Property (client.retire readerHost tag number) := by
  have removed := retains.toTransmits.remove tag property
  unfold Session.retire
  cases found : (client.remove tag).request? number with
  | none => simpa [found] using removed
  | some request =>
      simp only [found]
      exact retains.finishLogged tag number request.finalError removed

/-- A sentence fed to a request is received by it, and by no other. -/
theorem standing?_feed
    (known : client.standing? number = some standing)
    (incomplete : client.outcome? number = some none)
    (tag : Text)
    (other : Nat)
    (sentence : Sentence) :
    (client.feed readerHost tag other sentence).2.standing? number =
      some (if other = number then standing.receive sentence else standing) := by
  have folded : (client.modify other fun request =>
      { request with reply := request.reply.process sentence }).standing? number =
        some (if other = number then standing.fold sentence else standing) := by
    obtain ⟨own, found, same⟩ := Session.exists_request_of_standing? known
    split
    · rename_i equal
      subst equal
      rw [Session.standing?, Session.request?_modify, if_pos rfl, found, ← same]
      rfl
    · rename_i different
      rw [standing?_modify_of_ne different, known]
  have stillIncomplete : (client.modify other fun request =>
      { request with reply := request.reply.process sentence }).outcome? number = some none := by
    rw [Session.outcome?_modify]
    · exact incomplete
    · exact fun _ => rfl
  by_cases data : sentence.control = .data
  · rw [Session.feed_of_data readerHost data]
    generalize client.modify other _ = processed at folded stillIncomplete ⊢
    have delivered := standing?_deliver folded stillIncomplete other sentence
    have received : ((if other = number then standing.fold sentence else standing).mark
        ((if other = number then standing.fold sentence else standing).asksToCancel &&
          other == number)) =
        if other = number then standing.receive sentence else standing := by
      split
      · rename_i equal
        simp [Standing.receive, data, equal, Standing.fold]
      · rename_i different
        rw [beq_eq_false_iff_ne.mpr different, Bool.and_false, Standing.mark_false]
    rw [received] at delivered
    have retains := retains_standing number
      (if other = number then standing.receive sentence else standing)
    generalize processed.deliver readerHost other sentence = result at delivered ⊢
    obtain ⟨delivery, after⟩ := result
    cases delivery with
    | stalled | accepted => exact delivered
    | failed error => exact retains.abandon tag other error delivered
  · have received : (if other = number then standing.fold sentence else standing) =
        if other = number then standing.receive sentence else standing := by
      simp [Standing.receive, data]
    rw [received] at folded
    have retains := retains_standing number
      (if other = number then standing.receive sentence else standing)
    rw [Session.feed_of_ne_data readerHost data]
    cases sentence.isTerminal with
    | true => exact retains.retire tag other folded
    | false => exact folded

/-- A dispatched sentence is received by the request registered for its tag, and by no other. -/
theorem standing?_dispatch
    (sound : client.IsSound)
    (known : client.standing? number = some standing)
    (incomplete : client.outcome? number = some none)
    (found : client.lookup? standing.tag = some number)
    (sentence : Sentence) :
    (client.dispatch readerHost sentence).2.standing? number =
      some (if sentence.tag = some standing.tag then standing.receive sentence else standing) := by
  cases tagged : sentence.tag with
  | none =>
      rw [if_neg (by simp)]
      unfold Session.dispatch
      simp only [tagged]
      split
      · exact known
      · exact known
      · exact known
  | some tag =>
      cases otherFound : client.lookup? tag with
      | none =>
          have different : some tag ≠ some standing.tag := by
            rintro ⟨rfl⟩
            rw [found] at otherFound
            contradiction
          rw [Session.dispatch_of_lookup?_eq_none readerHost tagged otherFound, if_neg different]
          exact known
      | some other =>
          have own_iff : other = number ↔ some tag = some standing.tag := by
            constructor
            · rintro rfl
              obtain ⟨request, requestFound, tag_eq⟩ := sound.owned otherFound
              rw [Session.standing?, requestFound] at known
              cases known
              exact congrArg some tag_eq.symm
            · rintro ⟨rfl⟩
              exact Option.some.inj (otherFound.symm.trans found)
          rw [Session.dispatch_of_lookup?_eq_some readerHost tagged otherFound,
            standing?_feed known incomplete]
          simp only [own_iff]

end Client
end RouterApi
