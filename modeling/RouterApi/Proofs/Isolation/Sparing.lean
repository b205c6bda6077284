import RouterApi.Proofs.Isolation.Account

/-!
# Sparing the other requests

Serving one request spares all others, their entries in the table and the calls of their callbacks.

A callback may ask the host of the session to cancel a command. The host is discreet if it does so
without disturbing the session: it may register requests of its own, under tags that no request has
had.
-/

namespace RouterApi

namespace Session

variable {Λ : Type}

/-- A new entry of the table leads to a new request, of a tag that no request has had. -/
structure IsAddition
    (tag : Text)
    (number : Nat)
    (before after : Session Λ) : Prop where
  absent : before.request? number = none
  fresh : ∀ {other request}, before.request? other = some request → request.tag ≠ tag
  owned : ∃ request, after.request? number = some request ∧ request.tag = tag ∧
    request.handler.isConfined = true

/-- A session extends another one if it has the same requests, entries and calls, and possibly new
entries. -/
structure Extends (before after : Session Λ) : Prop where
  request_eq : ∀ {number request}, before.request? number = some request →
    after.request? number = some request
  lookup_eq : ∀ {tag number}, before.lookup? tag = some number → after.lookup? tag = some number
  entry : ∀ {tag number}, after.lookup? tag = some number →
    before.lookup? tag = some number ∨ IsAddition tag number before after
  distinct : (Assoc.keys before.dispatcher.pending).Nodup →
    (Assoc.keys after.dispatcher.pending).Nodup
  calls_eq : after.journal.calls = before.journal.calls
  unmatched_eq : after.dispatcher.unmatched = before.dispatcher.unmatched

/-- A session is part of another one if it has the same connection and the same tags to mint, and no
request of any other tag. -/
structure IsPartOf (part whole : Session Λ) : Prop where
  link_eq : part.link = whole.link
  minted_eq : part.dispatcher.minted = whole.dispatcher.minted
  failure_eq : part.dispatcher.failure = whole.dispatcher.failure
  known : ∀ {number request}, part.request? number = some request →
    ∃ other original, whole.request? other = some original ∧ original.tag = request.tag

/-- Serving a request of a tag spares all other requests, entries and calls. -/
structure Spares
    (number : Nat)
    (tag : Text)
    (before after : Session Λ) : Prop where
  request_eq : ∀ {other request}, other ≠ number → before.request? other = some request →
    after.request? other = some request
  served : ∀ {request}, before.request? number = some request →
    ∃ current, after.request? number = some current ∧ current.tag = request.tag ∧
      (request.handler.isConfined = true → current.handler.isConfined = true)
  lookup_eq : ∀ {other found}, other ≠ tag → before.lookup? other = some found →
    after.lookup? other = some found
  entry : ∀ {other found}, after.lookup? other = some found →
    before.lookup? other = some found ∨ IsAddition other found before after
  distinct : (Assoc.keys before.dispatcher.pending).Nodup →
    (Assoc.keys after.dispatcher.pending).Nodup
  calls_eq : ∀ {other}, other ≠ tag → after.callsOf other = before.callsOf other
  unmatched_eq : after.dispatcher.unmatched = before.dispatcher.unmatched

/-- A session is confined if its table is sound and so are the handlers of its outstanding requests.
-/
structure IsConfined (session : Session Λ) : Prop extends session.IsSound where
  handler : ∀ {tag number request}, session.lookup? tag = some number →
    session.request? number = some request → request.handler.isConfined = true

end Session

/-- A host is discreet if, while it is ready for some number of cancellations, it accepts that many
and only extends the session by them. -/
structure Host.IsDiscreet
    {Λ : Type}
    (host : Host Λ)
    (Ready : Nat → Session Λ → Prop) : Prop where
  fewer : ∀ {count session}, Ready (count + 1) session → Ready count session
  part : ∀ {count part whole}, Session.IsPartOf part whole → Ready count whole → Ready count part
  cancel : ∀ {count session number request}, session.IsSound → Ready (count + 1) session →
    session.request? number = some request →
    ∃ receipt after, host.cancel request.tag session = (.ok receipt, after) ∧
      Ready count after ∧ session.Extends after

theorem Host.IsDiscreet.atLeast
    {Λ : Type}
    {host : Host Λ}
    {Ready : Nat → Session Λ → Prop}
    (discreet : host.IsDiscreet Ready)
    {fewer count : Nat}
    (bound : fewer ≤ count)
    {session : Session Λ}
    (ready : Ready count session) :
    Ready fewer session := by
  induction bound with
  | refl => exact ready
  | step _ inductionHypothesis => exact inductionHypothesis (discreet.fewer ready)

namespace Session

variable {Λ : Type} {before middle after : Session Λ} {number : Nat} {tag : Text}

/-! ## Sessions that are part of others -/

theorem isPartOf_log
    (level : LogLevel)
    (source : LogSource)
    (message : Text)
    (session : Session Λ) :
    (session.log level source message).IsPartOf session :=
  ⟨rfl, rfl, rfl, fun found => ⟨_, _, found, rfl⟩⟩

theorem isPartOf_note
    (call : Call)
    (session : Session Λ) :
    (session.note call).IsPartOf session :=
  ⟨rfl, rfl, rfl, fun found => ⟨_, _, found, rfl⟩⟩

theorem isPartOf_remove
    (tag : Text)
    (session : Session Λ) :
    (session.remove tag).IsPartOf session :=
  ⟨rfl, rfl, rfl, fun found => ⟨_, _, found, rfl⟩⟩

theorem isPartOf_modify
    {number : Nat}
    {change : Request → Request}
    {session : Session Λ}
    (keepsTag : ∀ {request}, session.request? number = some request →
      (change request).tag = request.tag) :
    (session.modify number change).IsPartOf session where
  link_eq := rfl
  minted_eq := rfl
  failure_eq := rfl
  known {other request} found := by
    rw [request?_modify] at found
    split at found
    · rename_i same
      obtain ⟨original, original_eq, rfl⟩ := Option.map_eq_some_iff.mp found
      subst same
      exact ⟨number, original, original_eq, (keepsTag original_eq).symm⟩
    · exact ⟨other, request, found, rfl⟩

/-! ## Sparing -/

theorem Spares.refl
    (number : Nat)
    (tag : Text)
    (session : Session Λ) :
    Spares number tag session session where
  request_eq _ found := found
  served found := ⟨_, found, rfl, id⟩
  lookup_eq _ found := found
  entry found := .inl found
  distinct := id
  calls_eq _ := rfl
  unmatched_eq := rfl

/-- No known request gets lost, and none changes its tag. -/
theorem Spares.known
    (spares : Spares number tag before after)
    {other : Nat}
    {request : Request}
    (found : before.request? other = some request) :
    ∃ current, after.request? other = some current ∧ current.tag = request.tag ∧
      (request.handler.isConfined = true → current.handler.isConfined = true) := by
  by_cases same : other = number
  · subst same
    exact spares.served found
  · exact ⟨request, spares.request_eq same found, rfl, id⟩

theorem Spares.trans
    (first : Spares number tag before middle)
    (second : Spares number tag middle after) :
    Spares number tag before after where
  request_eq different found := second.request_eq different (first.request_eq different found)
  served found := by
    obtain ⟨current, found, tag_eq, confined⟩ := first.served found
    obtain ⟨final, found, final_eq, finally_⟩ := second.served found
    exact ⟨final, found, final_eq.trans tag_eq, finally_ ∘ confined⟩
  lookup_eq different found := second.lookup_eq different (first.lookup_eq different found)
  entry {other found} entry := by
    rcases second.entry entry with earlier | addition
    · rcases first.entry earlier with earliest | addition
      · exact .inl earliest
      · obtain ⟨request, request_eq, tag_eq, confined⟩ := addition.owned
        obtain ⟨current, current_eq, current_tag, keeps⟩ := second.known request_eq
        exact .inr ⟨addition.absent, addition.fresh,
          current, current_eq, current_tag.trans tag_eq, keeps confined⟩
    · refine .inr ⟨?_, ?_, addition.owned⟩
      · cases earlier : before.request? found with
        | none => rfl
        | some request =>
            obtain ⟨current, current_eq, -⟩ := first.known earlier
            rw [addition.absent] at current_eq
            contradiction
      · intro known request known_eq
        obtain ⟨current, current_eq, tag_eq, -⟩ := first.known known_eq
        rw [← tag_eq]
        exact addition.fresh current_eq
  distinct := second.distinct ∘ first.distinct
  calls_eq different := (second.calls_eq different).trans (first.calls_eq different)
  unmatched_eq := second.unmatched_eq.trans first.unmatched_eq

theorem Extends.spares
    (extension : before.Extends after)
    (number : Nat)
    (tag : Text) :
    Spares number tag before after where
  request_eq _ := extension.request_eq
  served found := ⟨_, extension.request_eq found, rfl, id⟩
  lookup_eq _ := extension.lookup_eq
  entry := extension.entry
  distinct := extension.distinct
  calls_eq _ := by simp [callsOf, extension.calls_eq]
  unmatched_eq := extension.unmatched_eq

theorem spares_log
    (number : Nat)
    (tag : Text)
    (level : LogLevel)
    (source : LogSource)
    (message : Text)
    (session : Session Λ) :
    Spares number tag session (session.log level source message) where
  request_eq _ found := found
  served found := ⟨_, found, rfl, id⟩
  lookup_eq _ found := found
  entry found := .inl found
  distinct := id
  calls_eq _ := rfl
  unmatched_eq := rfl

theorem spares_note
    (number : Nat)
    {tag : Text}
    {call : Call}
    (own : call.tag? = none ∨ call.tag? = some tag)
    (session : Session Λ) :
    Spares number tag session (session.note call) where
  request_eq _ found := found
  served found := ⟨_, found, rfl, id⟩
  lookup_eq _ found := found
  entry found := .inl found
  distinct := id
  calls_eq {other} different := by
    have foreign : call.tag? ≠ some other := by
      rcases own with none_eq | some_eq
      · simp [none_eq]
      · simpa [some_eq] using Ne.symm different
    simp [callsOf, foreign]
  unmatched_eq := rfl

theorem spares_modify
    (number : Nat)
    (tag : Text)
    {change : Request → Request}
    {session : Session Λ}
    (keeps : ∀ {request}, session.request? number = some request →
      (change request).tag = request.tag ∧
        (request.handler.isConfined = true → (change request).handler.isConfined = true)) :
    Spares number tag session (session.modify number change) where
  request_eq different found := by simpa [Ne.symm different] using found
  served {request} found := ⟨change request, by simp [found], keeps found⟩
  lookup_eq _ found := found
  entry found := .inl found
  distinct := id
  calls_eq _ := rfl
  unmatched_eq := rfl

theorem IsSound.spares_remove
    {session : Session Λ}
    (sound : session.IsSound)
    (number : Nat)
    (tag : Text) :
    Spares number tag session (session.remove tag) where
  request_eq _ found := found
  served found := ⟨_, found, rfl, id⟩
  lookup_eq different found := by rwa [lookup?_remove_of_ne session different]
  entry found := .inl (sound.lookup?_of_lookup?_remove found)
  distinct distinct := Assoc.nodup_keys_erase distinct tag
  calls_eq _ := rfl
  unmatched_eq := rfl

/-- Sparing keeps a table sound. -/
theorem Spares.isSound
    (spares : Spares number tag before after)
    (sound : before.IsSound) :
    after.IsSound where
  distinct := spares.distinct sound.distinct
  owned {other found} entry := by
    rcases spares.entry entry with earlier | addition
    · obtain ⟨request, request_eq, tag_eq⟩ := sound.owned earlier
      obtain ⟨current, current_eq, current_tag, -⟩ := spares.known request_eq
      exact ⟨current, current_eq, current_tag.trans tag_eq⟩
    · obtain ⟨request, request_eq, tag_eq, -⟩ := addition.owned
      exact ⟨request, request_eq, tag_eq⟩

/-- Sparing keeps a session confined. -/
theorem Spares.isConfined
    (spares : Spares number tag before after)
    (confined : before.IsConfined) :
    after.IsConfined where
  toIsSound := spares.isSound confined.toIsSound
  handler {other found request} entry request_eq := by
    rcases spares.entry entry with earlier | addition
    · obtain ⟨original, original_eq, -⟩ := confined.owned earlier
      obtain ⟨current, current_eq, -, keeps⟩ := spares.known original_eq
      rw [current_eq] at request_eq
      cases request_eq
      exact keeps (confined.handler earlier original_eq)
    · obtain ⟨current, current_eq, -, confined⟩ := addition.owned
      rw [current_eq] at request_eq
      cases request_eq
      exact confined

/-- A session is confined if each entry of its table leads to a request of its own tag with a
confined handler. -/
theorem isConfined_of_forall_mem
    {session : Session Λ}
    (distinct : (Assoc.keys session.dispatcher.pending).Nodup)
    (entries : ∀ {tag number}, (tag, number) ∈ session.dispatcher.pending →
      ∃ request, session.request? number = some request ∧ request.tag = tag ∧
        request.handler.isConfined = true) :
    session.IsConfined where
  distinct := distinct
  owned entry := by
    obtain ⟨request, request_eq, tag_eq, -⟩ := entries (Assoc.mem_of_get?_eq_some entry)
    exact ⟨request, request_eq, tag_eq⟩
  handler entry found := by
    obtain ⟨request, request_eq, -, confined⟩ := entries (Assoc.mem_of_get?_eq_some entry)
    rw [request_eq] at found
    cases found
    exact confined

end Session
end RouterApi
