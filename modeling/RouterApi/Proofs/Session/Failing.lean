import RouterApi.Proofs.Isolation.Account
import RouterApi.Proofs.Session.Stability

/-!
# Completing all outstanding requests

What completing one request, or all outstanding ones, makes of all requests, and of their outcomes
in particular. The table is emptied before the first callback is called, so a callback that closes
the connection then finds nothing left to complete.
-/

namespace RouterApi

/-- Whether the completion callback of a request closes the connection. -/
def Handler.closes : Handler → Bool
  | .callbacks _ (some .close) => true
  | .callbacks _ _ | .listener _ => false

namespace Session

variable {Λ : Type}

/-- The outcome of the request of a number. -/
def outcome?
    (number : Nat)
    (session : Session Λ) : Option (Option (Option Error)) :=
  (session.request? number).map Request.outcome

/-- The numbers that the entries of the table lead to. -/
def listed (session : Session Λ) : List Nat :=
  session.dispatcher.pending.map Prod.snd

/-- A way of closing is idle if it leaves the requests of a session alone that has no outstanding
ones. -/
structure IsIdle (close : Session Λ → Session Λ) : Prop where
  pending_eq : ∀ {session}, session.dispatcher.pending = [] →
    (close session).dispatcher.pending = []
  requests_eq : ∀ {session}, session.dispatcher.pending = [] →
    (close session).dispatcher.requests = session.dispatcher.requests

theorem isIdle_id : IsIdle (id : Session Λ → Session Λ) := ⟨id, fun _ => rfl⟩

variable
  {close : Session Λ → Session Λ}
  {session after : Session Λ}
  {number : Nat}
  {request : Request}
  {error : Option Error}

theorem outcome?_of_requests_eq
    (same : after.dispatcher.requests = session.dispatcher.requests)
    (number : Nat) :
    after.outcome? number = session.outcome? number := by
  simp [outcome?, Session.request?, Dispatcher.request?, same]

theorem outcome?_of_request?_eq_some (known : session.request? number = some request) :
    session.outcome? number = some request.outcome := by
  rw [outcome?, known, Option.map_some]

/-- Changing something else about a request keeps the outcomes. -/
theorem outcome?_modify
    {change : Request → Request}
    (same : ∀ request, (change request).outcome = request.outcome)
    (number other : Nat)
    (session : Session Λ) :
    (session.modify number change).outcome? other = session.outcome? other := by
  unfold outcome?
  rw [request?_modify]
  split
  · rw [Option.map_map]
    exact congrArg (Option.map · _) (funext same)
  · rfl

/-! ## One request -/

theorem outcome?_conclude
    (known : session.request? number = some request)
    (outstanding : request.isDone = false)
    (error : Option Error)
    (other : Nat) :
    (session.conclude number request error).outcome? other =
      if number = other then (session.outcome? other).map (·.or (some error))
      else session.outcome? other := by
  have incomplete : request.outcome = none := by simpa [Request.isDone] using outstanding
  unfold outcome?
  rw [request?_conclude, request?_modify]
  split
  · rename_i same
    subst same
    simp [known, incomplete]
  · rfl

/-- Completing a request makes of it what its completion comes to for itself alone, as long as
closing the connection completes no further requests. -/
theorem request?_finish_self
    (closes : ∀ {request}, session.request? number = some request →
      (close (session.conclude number request error)).dispatcher.requests =
        (session.conclude number request error).dispatcher.requests)
    (known : session.request? number = some request) :
    (session.finish close number error).2.request? number = some (request.completed error).1 := by
  unfold finish
  simp only [known]
  cases done : request.isDone with
  | true => simpa [Request.completed_of_isDone done] using known
  | false =>
      have completed_eq : request.completed error =
          Request.announced error { request with outcome := some error } := by
        simp [Request.completed, done]
      have current : (session.conclude number request error).request? number =
          some { request with outcome := some error } := by
        simp [request?_conclude, known]
      have concluded := closes known
      simp only [completed_eq, Bool.false_eq_true, if_false]
      obtain ⟨tag, words, handler, reply, cancelled, outcome⟩ := request
      cases handler with
      | listener queue =>
          simp only [announce, Request.announced]
          cases queue.offer none with
          | taken changed =>
              rw [request?_modify, if_pos rfl]
              exact congrArg (Option.map _) current
          | full | failed => exact current
      | callbacks onSentence onComplete =>
          cases onComplete with
          | none => exact current
          | some reaction =>
              cases reaction with
              | observe | raise | cancel => exact current
              | close => exact (congrArg (·[number]?) concluded).trans current

theorem request?_finish_of_ne
    (closes : ∀ {request}, session.request? number = some request →
      (close (session.conclude number request error)).dispatcher.requests =
        (session.conclude number request error).dispatcher.requests)
    {other : Nat}
    (different : number ≠ other) :
    (session.finish close number error).2.request? other = session.request? other := by
  have concluded (request : Request) :
      (session.conclude number request error).request? other = session.request? other := by
    rw [request?_conclude, request?_modify, if_neg different]
  have finishes := finishes_finish close number error session
  generalize (session.finish close number error).2 = after at finishes ⊢
  cases finishes with
  | idle => rfl
  | announced | declined => exact concluded _
  | marked =>
      rw [request?_modify, if_neg different]
      exact concluded _
  | closed known => exact (congrArg (·[other]?) (closes known)).trans (concluded _)

/-- Completing a request leaves all others as they are. -/
theorem request?_finish
    (closes : ∀ {request}, session.request? number = some request →
      (close (session.conclude number request error)).dispatcher.requests =
        (session.conclude number request error).dispatcher.requests)
    (other : Nat) :
    (session.finish close number error).2.request? other =
      if number = other then (session.request? other).map fun request => (request.completed error).1
      else session.request? other := by
  split
  · rename_i same
    subst same
    cases known : session.request? number with
    | none => simp [finish, known]
    | some request => exact request?_finish_self closes known
  · rename_i different
    exact request?_finish_of_ne closes different

/-- What the completion of a request makes of its outcome. -/
theorem outcome?_of_completed
    {listed : Prop}
    [Decidable listed]
    (completed : after.request? number =
      if listed then (session.request? number).map fun request => (request.completed error).1
      else session.request? number) :
    after.outcome? number =
      if listed then (session.outcome? number).map (·.or (some error))
      else session.outcome? number := by
  unfold outcome?
  rw [completed]
  split
  · simp only [Option.map_map, Function.comp_def, Request.outcome_completed]
  · rfl

/-- Completing a request sets its outcome unless it has one, and no other. -/
theorem outcome?_finish
    (closes : ∀ {request}, session.request? number = some request →
      (close (session.conclude number request error)).dispatcher.requests =
        (session.conclude number request error).dispatcher.requests)
    (other : Nat) :
    (session.finish close number error).2.outcome? other =
      if number = other then (session.outcome? other).map (·.or (some error))
      else session.outcome? other :=
  outcome?_of_completed (request?_finish closes other)

/-- How the connection is closed only matters if the callback of the request closes it. -/
theorem finish_eq_of_not_closes
    (keepsOpen : ∀ request, session.request? number = some request → request.isDone = false →
      request.handler.closes = false)
    (error : Option Error) :
    session.finish close number error = session.finish id number error := by
  unfold finish
  cases known : session.request? number with
  | none => rfl
  | some request =>
      cases done : request.isDone with
      | true => simp [done]
      | false =>
          have keeps := keepsOpen request known done
          simp only [done]
          unfold announce
          cases handler : request.handler with
          | listener queue => rfl
          | callbacks onSentence onComplete =>
              cases onComplete with
              | none => rfl
              | some reaction =>
                  cases reaction with
                  | observe | raise | cancel => rfl
                  | close => simp [handler, Handler.closes] at keeps

/-- A callback that closes the connection does so once the outcome has been set. -/
theorem finish_of_closes
    (known : session.request? number = some request)
    (outstanding : request.isDone = false)
    (closes : request.handler.closes = true)
    (error : Option Error) :
    session.finish close number error =
      (.ok (), close (session.conclude number request error)) := by
  unfold Handler.closes at closes
  split at closes
  · rename_i handler
    simp [finish, announce, known, outstanding, handler, conclude]
  · contradiction
  · contradiction

/-! ## All requests -/

/-- A session without outstanding requests has none once a request has been completed. -/
theorem stable_empty :
    Stable (fun _ => True) fun session : Session Λ => session.dispatcher.pending = [] :=
  stable_table (fun _ pending => pending = []) (fun _ empty => by rw [empty, Assoc.erase])
    fun _ _ => rfl

theorem request?_finishLogged
    (idle : IsIdle close)
    (empty : session.dispatcher.pending = [])
    (label : Text)
    (number : Nat)
    (error : Option Error)
    (other : Nat) :
    (session.finishLogged close label number error).request? other =
      if number = other then (session.request? other).map fun request => (request.completed error).1
      else session.request? other := by
  have concluded {request : Request} :
      (session.conclude number request error).dispatcher.pending = [] := by
    rw [dispatcher_conclude]
    exact empty
  have finished := request?_finish (fun _ => idle.requests_eq concluded) other
  rcases finishLogged_eq close label number error session with same | same
  · rw [same]
    exact finished
  · rw [same]
    exact finished

/-- Completing several requests with an error completes each of them that is not complete. -/
theorem request?_failEach
    (idle : IsIdle close)
    (error : Error)
    (entries : List (Text × Nat))
    (empty : session.dispatcher.pending = [])
    (number : Nat) :
    (session.failEach close error entries).request? number =
      if number ∈ entries.map Prod.snd then
        (session.request? number).map fun request => (request.completed (some error)).1
      else session.request? number := by
  induction entries generalizing session with
  | nil => simp [failEach]
  | cons entry rest inductionHypothesis =>
      obtain ⟨tag, first⟩ := entry
      have stillEmpty :
          (session.finishLogged close tag first (some error)).dispatcher.pending = [] :=
        stable_empty.finishLogged idle.pending_eq tag (some error) trivial empty
      rw [failEach, inductionHypothesis stillEmpty, request?_finishLogged idle empty]
      by_cases own : first = number
      · subst own
        cases session.request? first with
        | none => simp
        | some request => simp [Request.completed_of_isDone]
      · have different : ¬number = first := fun same => own same.symm
        simp only [if_neg own, List.map_cons, List.mem_cons, different, false_or]

/-- Completing all outstanding requests with an error completes those that are not complete. -/
theorem request?_failAll
    (idle : IsIdle close)
    (error : Error)
    (session : Session Λ)
    (number : Nat) :
    (session.failAll close error).request? number =
      if number ∈ session.listed then
        (session.request? number).map fun request => (request.completed (some error)).1
      else session.request? number := by
  have empty : (session.cutOff error).dispatcher.pending = [] := rfl
  exact request?_failEach idle error session.dispatcher.pending empty number

theorem pending_failAll
    (idle : IsIdle close)
    (error : Error)
    (session : Session Λ) :
    (session.failAll close error).dispatcher.pending = [] :=
  stable_empty.failEach idle.pending_eq error (fun _ _ => trivial)
    (show (session.cutOff error).dispatcher.pending = [] from rfl)

/-! ## Outstanding requests -/

/-- A request is outstanding if a tag leads to it, and it is incomplete. -/
structure IsOutstanding
    (number : Nat)
    (session : Session Λ) : Prop where
  registered : ∃ tag, session.lookup? tag = some number
  incomplete : session.outcome? number = some none

variable {other : Nat}

theorem IsOutstanding.mem_listed (outstanding : session.IsOutstanding number) :
    number ∈ session.listed := by
  obtain ⟨tag, found⟩ := outstanding.registered
  exact List.mem_map_of_mem (Assoc.mem_of_get?_eq_some found)

/-- Completing one request leaves the entries of the table alone. -/
theorem lookup?_finish_id
    (number : Nat)
    (error : Option Error)
    (tag : Text)
    (session : Session Λ) :
    (session.finish id number error).2.lookup? tag = session.lookup? tag := by
  have finishes := finishes_finish id number error session
  generalize (session.finish id number error).2 = after at finishes ⊢
  have concluded {request : Request} :
      (session.conclude number request error).lookup? tag = session.lookup? tag := by
    rw [lookup?, dispatcher_conclude]
    rfl
  cases finishes with
  | idle => rfl
  | announced | marked | declined | closed => exact concluded

/-- A request stays outstanding when another one is completed, unless the callback of that one
closes the connection. -/
theorem IsOutstanding.finish
    (outstanding : session.IsOutstanding other)
    (different : number ≠ other)
    (keepsOpen : ∀ request, session.request? number = some request → request.isDone = false →
      request.handler.closes = false)
    (error : Option Error) :
    (session.finish close number error).2.IsOutstanding other := by
  obtain ⟨tag, found⟩ := outstanding.registered
  rw [finish_eq_of_not_closes keepsOpen error]
  constructor
  · exact ⟨tag, (lookup?_finish_id number error tag session).trans found⟩
  · rw [outcome?_finish (fun _ => rfl), if_neg different]
    exact outstanding.incomplete

theorem IsOutstanding.conclude
    (outstanding : session.IsOutstanding other)
    (different : number ≠ other)
    (request : Request)
    (error : Option Error) :
    (session.conclude number request error).IsOutstanding other := by
  obtain ⟨tag, found⟩ := outstanding.registered
  constructor
  · refine ⟨tag, ?_⟩
    rw [lookup?, dispatcher_conclude]
    exact found
  · have incomplete := outstanding.incomplete
    unfold outcome? at incomplete ⊢
    rw [request?_conclude, request?_modify, if_neg different]
    exact incomplete

/-- Completing all outstanding requests completes each of them. -/
theorem IsOutstanding.outcome?_eq
    (outstanding : session.IsOutstanding number)
    (error : Error) :
    (if number ∈ session.listed then (session.outcome? number).map (·.or (some (some error)))
      else session.outcome? number) = some (some (some error)) := by
  rw [if_pos outstanding.mem_listed, outstanding.incomplete]
  rfl

end Session
end RouterApi
