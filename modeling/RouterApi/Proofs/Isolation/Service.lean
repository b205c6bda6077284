import RouterApi.Proofs.Isolation.Sparing

/-!
# Serving one request

Dispatching a sentence serves the request of its tag: all others are spared, and the account of the
served request changes as its own sentences alone make it change.
-/

namespace RouterApi

/-- A confined handler either accepts a data sentence or fails. -/
def Delivery.ofFailure : Option Error → Delivery
  | none => .accepted
  | some error => .failed error

namespace Session

variable {Λ : Type} {before middle after : Session Λ} {number : Nat} {tag : Text}

/-! ## Accounts held by a session -/

/-- A session holds the account of a request if it is in the state that the account tells. -/
structure Holds
    (number : Nat)
    (account : Account)
    (session : Session Λ) : Prop where
  request_eq : session.request? number = some account.request
  lookup_eq : session.lookup? account.request.tag =
    if account.isOutstanding then some number else none
  calls_eq : session.callsOf account.request.tag = account.calls

/-- A turn serves one request: all others are spared, at most the given number of cancellations is
used up, and the account of the request changes. -/
structure Turn
    (Ready : Nat → Session Λ → Prop)
    (cost number : Nat)
    (before : Session Λ)
    (account : Account)
    (after : Session Λ)
    (outcome : Account) : Prop where
  spares : Spares number account.request.tag before after
  ready : ∀ {count}, Ready (count + cost) before → Ready count after
  holds : after.Holds number outcome
  tag_eq : outcome.request.tag = account.request.tag

variable
  {host : Host Λ}
  {Ready : Nat → Session Λ → Prop}
  {account : Account}

theorem Turn.trans
    {first second : Nat}
    {between outcome : Account}
    (earlier : Turn Ready first number before account middle between)
    (later : Turn Ready second number middle between after outcome) :
    Turn Ready (first + second) number before account after outcome where
  spares := earlier.spares.trans (earlier.tag_eq ▸ later.spares)
  ready {count} ready := later.ready (earlier.ready (by
    rwa [Nat.add_assoc, Nat.add_comm second first]))
  holds := later.holds
  tag_eq := later.tag_eq.trans earlier.tag_eq

/-- A turn keeps the handler of the request confined. -/
theorem Turn.confined
    {cost : Nat}
    {outcome : Account}
    (turn : Turn Ready cost number before account after outcome)
    (holds : before.Holds number account)
    (confined : account.request.handler.isConfined = true) :
    outcome.request.handler.isConfined = true := by
  obtain ⟨current, current_eq, -, keeps⟩ := turn.spares.served holds.request_eq
  rw [turn.holds.request_eq] at current_eq
  cases current_eq
  exact keeps confined

/-- A turn may leave a cancellation unused. -/
theorem Turn.unused
    {outcome : Account}
    (discreet : host.IsDiscreet Ready)
    (turn : Turn Ready 0 number before account after outcome) :
    Turn Ready 1 number before account after outcome where
  spares := turn.spares
  ready ready := turn.ready (discreet.fewer ready)
  holds := turn.holds
  tag_eq := turn.tag_eq

theorem turn_refl (holds : before.Holds number account) :
    Turn Ready 0 number before account before account where
  spares := Spares.refl number _ before
  ready := id
  holds := holds
  tag_eq := rfl

theorem turn_log
    (discreet : host.IsDiscreet Ready)
    (holds : before.Holds number account)
    (level : LogLevel)
    (source : LogSource)
    (message : Text) :
    Turn Ready 0 number before account (before.log level source message) account where
  spares := spares_log number _ level source message before
  ready := discreet.part (isPartOf_log level source message before)
  holds := ⟨holds.request_eq, holds.lookup_eq, holds.calls_eq⟩
  tag_eq := rfl

/-- Noting a call of a callback of the request. -/
theorem turn_note
    (discreet : host.IsDiscreet Ready)
    (holds : before.Holds number account)
    {call : Call}
    (own : call.tag? = some account.request.tag) :
    Turn Ready 0 number before account (before.note call)
      { account with calls := account.calls ++ [call] } where
  spares := spares_note number (.inr own) before
  ready := discreet.part (isPartOf_note call before)
  holds := ⟨holds.request_eq, holds.lookup_eq, by
    simpa [callsOf, own] using holds.calls_eq⟩
  tag_eq := rfl

/-- Noting the receipt of a cancellation, which is no call. -/
theorem turn_receipt
    (discreet : host.IsDiscreet Ready)
    (holds : before.Holds number account)
    (receipt : Option Text) :
    Turn Ready 0 number before account (before.note (.cancelled receipt)) account where
  spares := spares_note number (.inl rfl) before
  ready := discreet.part (isPartOf_note _ before)
  holds := ⟨holds.request_eq, holds.lookup_eq, by
    simpa [callsOf, Call.tag?] using holds.calls_eq⟩
  tag_eq := rfl

theorem turn_modify
    (discreet : host.IsDiscreet Ready)
    (holds : before.Holds number account)
    (change : Request → Request)
    (tag_eq : (change account.request).tag = account.request.tag)
    (confined : account.request.handler.isConfined = true →
      (change account.request).handler.isConfined = true) :
    Turn Ready 0 number before account (before.modify number change)
      { account with request := change account.request } where
  spares := by
    apply spares_modify
    intro request found
    rw [holds.request_eq] at found
    cases found
    exact ⟨tag_eq, confined⟩
  ready := discreet.part (isPartOf_modify fun found => by
    rw [holds.request_eq] at found
    cases found
    exact tag_eq)
  holds :=
    { request_eq := by simp [holds.request_eq]
      lookup_eq := by simpa [tag_eq] using holds.lookup_eq
      calls_eq := by simpa [callsOf, tag_eq] using holds.calls_eq }
  tag_eq := tag_eq

/-- Taking the entry of the request out of the table. -/
theorem turn_remove
    (discreet : host.IsDiscreet Ready)
    (sound : before.IsSound)
    (holds : before.Holds number account) :
    Turn Ready 0 number before account (before.remove account.request.tag)
      { account with isOutstanding := false } where
  spares := sound.spares_remove number _
  ready := discreet.part (isPartOf_remove _ before)
  holds := ⟨holds.request_eq, sound.lookup?_remove_self _, holds.calls_eq⟩
  tag_eq := rfl

/-- A cancellation that the host accepts leaves the account of an outstanding request as it is. -/
theorem turn_cancel
    (discreet : host.IsDiscreet Ready)
    (sound : before.IsSound)
    (ready : Ready 1 before)
    (holds : before.Holds number account)
    (outstanding : account.isOutstanding = true) :
    ∃ receipt after, host.cancel account.request.tag before = (.ok receipt, after) ∧
      Turn Ready 1 number before account after account := by
  obtain ⟨receipt, after, accepted, -, extension⟩ :=
    discreet.cancel sound ready holds.request_eq
  refine ⟨receipt, after, accepted, extension.spares number _, ?_, ?_, rfl⟩
  · intro count ready
    obtain ⟨_, _, same, ready, -⟩ := discreet.cancel sound ready holds.request_eq
    rw [accepted] at same
    cases same
    exact ready
  · have lookup_eq := holds.lookup_eq
    rw [outstanding] at lookup_eq
    exact ⟨extension.request_eq holds.request_eq,
      by rw [outstanding]; exact extension.lookup_eq lookup_eq,
      by rw [callsOf, extension.calls_eq]; exact holds.calls_eq⟩

/-! ## Completion -/

/-- Putting an item into the queue of a listener, which stays confined. -/
theorem turn_queue
    (discreet : host.IsDiscreet Ready)
    (holds : before.Holds number account)
    {queue changed : Queue}
    (handler_eq : account.request.handler = .listener queue)
    {item : Option Sentence}
    (taken : queue.offer item = .taken changed) :
    Turn Ready 0 number before account
      (before.modify number fun request => { request with handler := .listener changed })
      { account with request := { account.request with handler := .listener changed } } := by
  apply turn_modify discreet holds
    (fun request => { request with handler := .listener changed }) rfl
  intro confined
  rw [handler_eq] at confined
  simpa [Handler.isConfined, Queue.capacity_of_offer_eq_taken taken] using confined

/-- Announcing the completion of a request. -/
theorem turn_announce
    (discreet : host.IsDiscreet Ready)
    (close : Session Λ → Session Λ)
    (error : Option Error)
    (holds : before.Holds number account)
    (request : Request)
    (handler_eq : request.handler = account.request.handler)
    (tag_eq : request.tag = account.request.tag)
    (confined : account.request.handler.isConfined = true) :
    Turn Ready 0 number before account (before.announce close number request error).2
      { account with
        request := (account.request.announced error).1
        calls := account.calls ++ (account.request.announced error).2 } := by
  unfold announce Request.announced
  rw [handler_eq, tag_eq]
  cases handler : account.request.handler with
  | listener queue =>
      simp only
      cases offered : queue.offer none with
      | taken changed => simpa using turn_queue discreet holds handler offered
      | full => simpa using turn_refl holds
      | failed error => simpa using turn_refl holds
  | callbacks onSentence onComplete =>
      cases onComplete with
      | none => simpa using turn_refl holds
      | some reaction =>
          have noted := turn_note discreet holds
            (show (Call.completed account.request.tag error).tag? = some account.request.tag
              from rfl)
          cases reaction with
          | observe => exact noted
          | raise error => exact noted
          | cancel => exact noted.trans (turn_receipt discreet noted.holds none)
          | close => simp [handler, Handler.isConfined, Reaction.isConfined] at confined

/-- Completing a request that is out of the table. -/
theorem turn_finish
    (discreet : host.IsDiscreet Ready)
    (close : Session Λ → Session Λ)
    (error : Option Error)
    (holds : before.Holds number account)
    (retired : account.isOutstanding = false)
    (confined : account.request.handler.isConfined = true) :
    Turn Ready 0 number before account (before.finish close number error).2
      (account.complete error) := by
  unfold finish
  rw [holds.request_eq]
  by_cases done : account.request.isDone = true
  · have unchanged : account.complete error = account := by
      simp [Account.complete, Request.completed, done, ← retired]
    simpa [done, unchanged] using turn_refl holds
  · have ended := turn_modify discreet holds
      (fun request => { request with outcome := some error }) rfl id
    have announced :=
      turn_announce discreet close error ended.holds account.request rfl rfl confined
    simpa [done, Account.complete, Request.completed, retired] using ended.trans announced

/-- Completing a request that is out of the table, with a log entry if its callback fails. -/
theorem turn_finishLogged
    (discreet : host.IsDiscreet Ready)
    (close : Session Λ → Session Λ)
    (label : Text)
    (error : Option Error)
    (holds : before.Holds number account)
    (retired : account.isOutstanding = false)
    (confined : account.request.handler.isConfined = true) :
    Turn Ready 0 number before account (before.finishLogged close label number error)
      (account.complete error) := by
  have finished := turn_finish discreet close error holds retired confined
  unfold finishLogged
  cases result : before.finish close number error with
  | mk outcome after =>
      rw [result] at finished
      cases outcome with
      | ok => exact finished
      | error failure =>
          exact finished.trans (turn_log discreet finished.holds _ _ _)

/-! ## Delivery -/

/-- A callback that cancels its own request. -/
theorem turn_cancelRequest
    (discreet : host.IsDiscreet Ready)
    (sound : before.IsSound)
    (ready : Ready 1 before)
    (holds : before.Holds number account)
    (outstanding : account.isOutstanding = true) :
    ∃ receipt after, before.cancelRequest host.cancel number = (.ok receipt, after) ∧
      Turn Ready 1 number before account after
        { account with
          request :=
            { account.request with
              cancelled := account.request.cancelled || !account.request.isDone } } := by
  unfold cancelRequest
  rw [holds.request_eq]
  by_cases done : account.request.isDone = true
  · refine ⟨none, before, by simp [done], ?_⟩
    simpa [done] using (turn_refl holds).unused discreet
  · have marked := turn_modify discreet holds
      (fun request => { request with cancelled := true }) rfl id
    obtain ⟨receipt, after, accepted, cancelled⟩ := turn_cancel discreet
      (marked.spares.isSound sound) (marked.ready ready) marked.holds outstanding
    refine ⟨some receipt, after, ?_, ?_⟩
    · simp only at accepted
      simp [done, accepted]
    · simpa [done] using marked.trans cancelled

/-- Handing a data sentence to a confined handler. -/
theorem turn_deliver
    (discreet : host.IsDiscreet Ready)
    (sound : before.IsSound)
    (ready : Ready 1 before)
    (holds : before.Holds number account)
    (outstanding : account.isOutstanding = true)
    (confined : account.request.handler.isConfined = true)
    (sentence : Sentence) :
    ∃ after, before.deliver host number sentence =
        (.ofFailure (account.request.delivered sentence).1, after) ∧
      Turn Ready 1 number before account after
        { account with
          request := (account.request.delivered sentence).2.1
          calls := account.calls ++ (account.request.delivered sentence).2.2 } := by
  unfold deliver Request.delivered
  rw [holds.request_eq]
  cases handler : account.request.handler with
  | listener queue =>
      cases offered : queue.offer (some sentence) with
      | taken changed =>
          simp only [handler, offered]
          refine ⟨_, rfl, ?_⟩
          simpa using (turn_queue discreet holds handler offered).unused discreet
      | full =>
          rw [handler] at confined
          simp only [Handler.isConfined] at confined
          unfold Queue.offer at offered
          cases capacity : queue.capacity <;> simp [capacity] at offered confined
      | failed error =>
          simp only [handler, offered]
          refine ⟨_, rfl, ?_⟩
          simpa using (turn_refl holds).unused discreet
  | callbacks onSentence onComplete =>
      cases onSentence with
      | none =>
          simp only [handler]
          refine ⟨_, rfl, ?_⟩
          simpa using (turn_refl holds).unused discreet
      | some reaction =>
          have noted := turn_note discreet holds
            (show (Call.delivered account.request.tag sentence).tag? = some account.request.tag
              from rfl)
          cases reaction with
          | observe =>
              simp only [handler]
              exact ⟨_, rfl, noted.unused discreet⟩
          | raise error =>
              simp only [handler]
              exact ⟨_, rfl, noted.unused discreet⟩
          | close => simp [handler, Handler.isConfined, Reaction.isConfined] at confined
          | cancel =>
              obtain ⟨receipt, after, accepted, cancelled⟩ := turn_cancelRequest discreet
                (noted.spares.isSound sound) (noted.ready ready) noted.holds outstanding
              have served := (noted.trans cancelled).trans
                (turn_receipt discreet cancelled.holds receipt)
              simp only [handler, accepted] at served ⊢
              exact ⟨_, rfl, served⟩

/-! ## Feeding -/

/-- Taking a request out of the table and completing it. -/
theorem turn_removeAndFinish
    (discreet : host.IsDiscreet Ready)
    (sound : before.IsSound)
    (holds : before.Holds number account)
    (confined : account.request.handler.isConfined = true)
    (label : Text)
    (error : Option Error) :
    Turn Ready 0 number before account
      ((before.remove account.request.tag).finishLogged host.close label number error)
      (account.complete error) := by
  have removed := turn_remove discreet sound holds
  exact removed.trans
    (turn_finishLogged discreet host.close label error removed.holds rfl confined)

/-- Ending a request whose callback failed. -/
theorem turn_abandon
    (discreet : host.IsDiscreet Ready)
    (sound : before.IsSound)
    (holds : before.Holds number account)
    (confined : account.request.handler.isConfined = true)
    (error : Error) :
    Turn Ready 0 number before account
      (before.abandon host account.request.tag number error) (account.complete (some error)) := by
  have logged := turn_log discreet holds .error .request
    (literal "callback for tag " ++ account.request.tag ++ literal " failed")
  exact logged.trans
    (turn_removeAndFinish discreet (logged.spares.isSound sound) logged.holds confined _ _)

/-- Retiring a request after its terminal sentence. -/
theorem turn_retire
    (discreet : host.IsDiscreet Ready)
    (sound : before.IsSound)
    (holds : before.Holds number account)
    (confined : account.request.handler.isConfined = true) :
    Turn Ready 0 number before account
      (before.retire host account.request.tag number)
      (account.complete account.request.finalError) := by
  unfold retire
  simp only [request?_remove, holds.request_eq]
  exact turn_removeAndFinish discreet sound holds confined _ _

/-- Handing over the sentence that has just been folded into the reply. -/
theorem turn_deliverData
    (discreet : host.IsDiscreet Ready)
    (sound : before.IsSound)
    (ready : Ready 1 before)
    (holds : before.Holds number account)
    (outstanding : account.isOutstanding = true)
    (confined : account.request.handler.isConfined = true)
    (sentence : Sentence) :
    ∃ after,
      (if sentence.control = .data then before.deliver host number sentence
        else (.accepted, before)) = (.ofFailure (account.deliver sentence).1, after) ∧
      Turn Ready 1 number before account after (account.deliver sentence).2 := by
  unfold Account.deliver
  by_cases data : sentence.control = .data
  · simp only [data, if_true]
    exact turn_deliver discreet sound ready holds outstanding confined sentence
  · simp only [data, if_false]
    exact ⟨before, rfl, (turn_refl holds).unused discreet⟩

/-- A sentence that does not end the connection is fed to the request of its tag, whose account
receives it. -/
theorem turn_feed
    (discreet : host.IsDiscreet Ready)
    (sound : before.IsSound)
    (ready : Ready 1 before)
    (holds : before.Holds number account)
    (outstanding : account.isOutstanding = true)
    (confined : account.request.handler.isConfined = true)
    {sentence : Sentence}
    (peaceful : sentence.control ≠ .fatal) :
    ∃ after, before.feed host account.request.tag number sentence = (.handled, after) ∧
      Turn Ready 1 number before account after (account.receive sentence) := by
  have processed : Turn Ready 0 number before account
      (before.modify number fun request =>
        { request with reply := request.reply.process sentence })
      (account.process sentence) :=
    turn_modify discreet holds _ rfl id
  obtain ⟨middle, delivered, turn⟩ := turn_deliverData discreet
    (processed.spares.isSound sound) (processed.ready ready) processed.holds outstanding confined
    sentence
  unfold feed Account.receive
  simp only [delivered, outstanding, if_true]
  generalize (account.process sentence).deliver sentence = result at turn ⊢
  obtain ⟨failure, served⟩ := result
  have delivery : Turn Ready 1 number before account middle served := processed.trans turn
  have still := delivery.spares.isSound sound
  have steady := delivery.confined holds confined
  rw [← delivery.tag_eq]
  cases failure with
  | some error =>
      exact ⟨_, rfl, delivery.trans (turn_abandon discreet still delivery.holds steady error)⟩
  | none =>
      simp only [Delivery.ofFailure, Account.settle, peaceful, if_false]
      by_cases terminal : sentence.isTerminal = true
      · simp only [terminal, if_true]
        exact ⟨_, rfl, delivery.trans (turn_retire discreet still delivery.holds steady)⟩
      · simp only [terminal]
        exact ⟨_, rfl, delivery⟩

end Session
end RouterApi
