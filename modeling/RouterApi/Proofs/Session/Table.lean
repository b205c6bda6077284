import RouterApi.Proofs.Assoc
import RouterApi.Session.Completion

/-!
# The table of a session

Everything that a session does to its requests is made of a few elementary updates. This module says
what each of them does to the requests, to the table and to the calls of callbacks, and states when
a table is sound: its tags are distinct, and each of them leads to a request of that tag.
-/

namespace RouterApi

/-- The tag of the request whose callback was called; a receipt belongs to no request. -/
def Call.tag? : Call → Option Text
  | .delivered tag _ | .completed tag _ => some tag
  | .cancelled _ => none

/-- A queue that takes an item puts it at its end. -/
theorem Queue.eq_of_offer_eq_taken
    {item : Option Sentence}
    {queue after : Queue}
    (taken : queue.offer item = .taken after) :
    after = { queue with items := queue.items ++ [item] } := by
  unfold offer at taken
  split at taken
  · cases taken
    rfl
  · split at taken
    · cases taken
      rfl
    · cases taken
  · cases taken

/-- An item offered to a queue leaves its capacity as it is. -/
theorem Queue.capacity_of_offer_eq_taken
    {item : Option Sentence}
    {queue after : Queue}
    (taken : queue.offer item = .taken after) :
    after.capacity = queue.capacity := by
  rw [eq_of_offer_eq_taken taken]

/-- A bound is the only reason for a queue to be full. -/
theorem Queue.exists_atMost_of_offer_eq_full
    {item : Option Sentence}
    {queue : Queue}
    (full : queue.offer item = .full) :
    ∃ count, queue.capacity = .atMost count := by
  unfold offer at full
  split at full
  · contradiction
  · rename_i count bounded
    exact ⟨count, bounded⟩
  · contradiction

namespace Dispatcher

/-- A known request was known before, or is the new one. -/
theorem request?_adopt_eq_some
    {number : Nat}
    {request found : Request}
    {dispatcher : Dispatcher}
    (known : (dispatcher.adopt request).2.request? number = some found) :
    dispatcher.request? number = some found ∨
      number = dispatcher.requests.length ∧ found = request := by
  by_cases earlier : number < dispatcher.requests.length
  · exact .inl ((request?_adopt_of_lt request dispatcher earlier).symm.trans known)
  · have bound := (List.getElem?_eq_some_iff.mp known).1
    have number_eq : number = (dispatcher.adopt request).1 := by
      simp only [adopt, List.length_append, List.length_singleton] at bound ⊢
      omega
    subst number_eq
    rw [request?_adopt_self] at known
    exact .inr ⟨rfl, (Option.some.inj known).symm⟩

/-- A request is registered only if the connection has not failed and its tag is free. -/
theorem register_eq_ok_iff
    {number : Nat}
    {request : Request}
    {dispatcher after : Dispatcher}
    (known : dispatcher.request? number = some request) :
    dispatcher.register number = .ok after ↔
      dispatcher.failure = none ∧
        Assoc.get? request.tag dispatcher.pending = none ∧
        after = { dispatcher with pending := dispatcher.pending.set request.tag number } := by
  unfold register
  cases failed : dispatcher.failure with
  | some failure => simp
  | none =>
      cases taken : Assoc.get? request.tag dispatcher.pending with
      | some other => simp [known, taken]
      | none => simp [known, taken, eq_comm]

/-- Otherwise it is refused with an error of the API. -/
theorem register_of_refused
    {number : Nat}
    {request : Request}
    {dispatcher : Dispatcher}
    (known : dispatcher.request? number = some request)
    (refused : dispatcher.failure ≠ none ∨ Assoc.get? request.tag dispatcher.pending ≠ none) :
    ∃ error, error.kind.isApi = true ∧ dispatcher.register number = .error error := by
  unfold register
  cases failed : dispatcher.failure with
  | some failure => exact ⟨.closed (.refused failure.message), rfl, rfl⟩
  | none =>
      have taken : (Assoc.get? request.tag dispatcher.pending).isSome = true :=
        Option.isSome_iff_ne_none.mpr (refused.resolve_left (not_not_intro failed))
      exact ⟨.tagInUse request.tag, rfl, by simp [known, taken]⟩

end Dispatcher

namespace Session

variable {Λ : Type}

/-- The calls of the callbacks of the requests of a tag. -/
def callsOf (tag : Text) (session : Session Λ) : List Call :=
  session.journal.calls.filter (·.tag? == some tag)

/-! ## Elementary updates -/

section Updates

variable
  (level : LogLevel)
  (source : LogSource)
  (message : Text)
  (call : Call)
  (number other : Nat)
  (change : Request → Request)
  (tag : Text)
  (session : Session Λ)

@[simp] theorem link_log :
    (session.log level source message).link = session.link := rfl

@[simp] theorem dispatcher_note : (session.note call).dispatcher = session.dispatcher := rfl

@[simp] theorem calls_note :
    (session.note call).journal.calls = session.journal.calls ++ [call] := rfl

@[simp] theorem request?_modify :
    (session.modify number change).request? other =
      if number = other then (session.request? other).map change else session.request? other :=
  Dispatcher.request?_modify number other change session.dispatcher

@[simp] theorem length_modify :
    (session.modify number change).dispatcher.requests.length =
      session.dispatcher.requests.length :=
  List.length_modify ..

@[simp] theorem lookup?_modify :
    (session.modify number change).lookup? tag = session.lookup? tag := rfl

@[simp] theorem journal_modify :
    (session.modify number change).journal = session.journal := rfl

@[simp] theorem request?_remove :
    (session.remove tag).request? number = session.request? number := rfl

theorem lookup?_remove_of_ne
    {tag otherTag : Text}
    (different : otherTag ≠ tag) :
    (session.remove tag).lookup? otherTag = session.lookup? otherTag :=
  Assoc.get?_erase_of_ne different session.dispatcher.pending

end Updates

/-! ## Sound tables -/

/-- A table is sound if its tags are distinct, and each leads to a request of that tag. -/
structure IsSound (session : Session Λ) : Prop where
  distinct : (Assoc.keys session.dispatcher.pending).Nodup
  owned : ∀ {tag number}, session.lookup? tag = some number →
    ∃ request, session.request? number = some request ∧ request.tag = tag

/-- A request is registered if its tag leads to it. -/
structure Registers
    (number : Nat)
    (request : Request)
    (session : Session Λ) : Prop where
  lookup_eq : session.lookup? request.tag = some number
  request_eq : session.request? number = some request

theorem IsSound.lookup?_remove_self
    {session : Session Λ}
    (sound : session.IsSound)
    (tag : Text) :
    (session.remove tag).lookup? tag = none :=
  Assoc.get?_erase_self sound.distinct tag

theorem IsSound.lookup?_of_lookup?_remove
    {session : Session Λ}
    (sound : session.IsSound)
    {tag other : Text}
    {number : Nat}
    (found : (session.remove tag).lookup? other = some number) :
    session.lookup? other = some number := by
  by_cases same : other = tag
  · subst same
    rw [sound.lookup?_remove_self other] at found
    contradiction
  · rwa [lookup?_remove_of_ne session same] at found

/-- A new session has a sound table. -/
theorem isSound_of_pending_eq_nil
    {session : Session Λ}
    (empty : session.dispatcher.pending = []) :
    session.IsSound := by
  constructor
  · simp [empty, Assoc.keys]
  · intro tag number found
    simp [lookup?, empty] at found

/-- Registering a new request keeps a table sound. -/
theorem IsSound.register
    {session : Session Λ}
    (sound : session.IsSound)
    (request : Request)
    {dispatcher : Dispatcher}
    (registered :
      (session.dispatcher.adopt request).2.register (session.dispatcher.adopt request).1 =
        .ok dispatcher) :
    ({ session with dispatcher } : Session Λ).IsSound := by
  have known := Dispatcher.request?_adopt_self request session.dispatcher
  obtain ⟨-, -, rfl⟩ := (Dispatcher.register_eq_ok_iff known).mp registered
  constructor
  · exact Assoc.nodup_keys_set sound.distinct _ _
  · intro tag number found
    by_cases same : tag = request.tag
    · subst same
      refine ⟨request, ?_, rfl⟩
      have number_eq : some (session.dispatcher.adopt request).1 = some number :=
        (Assoc.get?_set_self ..).symm.trans found
      rw [← Option.some.inj number_eq]
      exact known
    · have earlier : session.lookup? tag = some number :=
        (Assoc.get?_set_of_ne same ..).symm.trans found
      obtain ⟨owner, owner_eq, tag_eq⟩ := sound.owned earlier
      refine ⟨owner, ?_, tag_eq⟩
      have lower : number < session.dispatcher.requests.length :=
        (List.getElem?_eq_some_iff.mp owner_eq).1
      exact (Dispatcher.request?_adopt_of_lt request session.dispatcher lower).trans owner_eq

end Session
end RouterApi
