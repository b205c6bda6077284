import RouterApi.Proofs.Session.Failing

/-!
# Prompt requests

A request is prompt if its callbacks only record or fail, and its queue, if it is a listener, has no
bound. Handing sentences to it and completing it never waits, and asks nothing of the connection. So
while all outstanding requests are prompt, what a session does to them is what it would do without a
connection, and does not depend on what has been logged before.
-/

namespace RouterApi

/-- A reaction is prompt if it only records its call or fails. -/
def Reaction.IsPrompt : Reaction → Prop
  | .observe | .raise _ => True
  | .cancel | .close => False

/-- A handler is prompt if its callbacks are, or its queue has no bound. -/
def Handler.IsPrompt : Handler → Prop
  | .callbacks onSentence onComplete =>
      (∀ reaction ∈ onSentence, reaction.IsPrompt) ∧ ∀ reaction ∈ onComplete, reaction.IsPrompt
  | .listener queue => ∀ count, queue.capacity ≠ .atMost count

/-- A queue without a bound is never full. -/
theorem Queue.offer_ne_full
    {queue : Queue}
    (unbounded : ∀ count, queue.capacity ≠ .atMost count)
    (item : Option Sentence) :
    queue.offer item ≠ .full := by
  intro full
  obtain ⟨count, bounded⟩ := exists_atMost_of_offer_eq_full full
  exact unbounded count bounded

namespace Session

variable {Λ : Type}

/-- The request of a number, if there is one, is prompt. -/
def IsPromptAt
    (number : Nat)
    (session : Session Λ) : Prop :=
  ∀ request, session.request? number = some request → request.handler.IsPrompt

/-- A session is prompt if the requests are that its table leads to. -/
def IsPrompt (session : Session Λ) : Prop :=
  ∀ number ∈ session.listed, session.IsPromptAt number

/-- A session without a connection over a connection, and after a log. -/
def mount
    (link : Λ)
    (log : List LogEntry)
    (bare : Session Unit) : Session Λ where
  dispatcher := bare.dispatcher
  link := link
  journal := { log := log ++ bare.journal.log, calls := bare.journal.calls }

/-- The result of a step without a connection, and the session after it over a connection. -/
def mounted
    {α : Type}
    (link : Λ)
    (log : List LogEntry)
    (outcome : α × Session Unit) : α × Session Λ :=
  (outcome.1, outcome.2.mount link log)

/-- What a session is apart from its connection and its log. -/
def unmounted (session : Session Λ) : Session Unit where
  dispatcher := session.dispatcher
  link := ()
  journal := { calls := session.journal.calls }

/-- A host that does nothing, and never waits. -/
def bareHost : Host Unit where
  cancel _ session := (.ok [], session)
  close := id
  giveUp? := some

@[simp] theorem mount_unmounted (session : Session Λ) :
    session.unmounted.mount session.link session.journal.log = session := by
  simp [mount, unmounted]

variable
  {link : Λ}
  {log : List LogEntry}
  {bare : Session Unit}
  {close : Session Λ → Session Λ}
  {host : Host Λ}
  {session : Session Λ}
  {number : Nat}
  {tag : Text}

theorem mount_log
    (level : LogLevel)
    (source : LogSource)
    (message : Text) :
    (bare.log level source message).mount link log =
      (bare.mount link log).log level source message := by
  simp [mount, Session.log, List.append_assoc]

/-! ## Promptness lasts -/

theorem IsPromptAt.modify
    {other : Nat}
    {change : Request → Request}
    (prompt : session.IsPromptAt number)
    (keeps : ∀ request, session.request? other = some request → request.handler.IsPrompt →
      (change request).handler.IsPrompt) :
    (session.modify other change).IsPromptAt number := by
  intro request known
  rw [request?_modify] at known
  split at known
  · rename_i same
    subst same
    obtain ⟨earlier, earlierKnown, rfl⟩ := Option.map_eq_some_iff.mp known
    exact keeps earlier earlierKnown (prompt earlier earlierKnown)
  · exact prompt request known

/-- A request stays prompt. -/
theorem stable_isPromptAt (number : Nat) :
    Stable (fun _ => True) fun session : Session Λ => session.IsPromptAt number where
  entry _ _ := trivial
  log _ _ _ prompt := prompt
  receipt _ prompt := prompt
  conclude error _ _ _ prompt := by
    intro request known
    rw [request?_conclude] at known
    refine IsPromptAt.modify prompt ?_ request known
    exact fun _ _ kept => kept
  queue {session other request queue after item} _ known handler offered prompt := by
    refine prompt.modify fun current currentKnown kept => ?_
    cases known.symm.trans currentKnown
    rw [handler] at kept
    intro count
    rw [Queue.capacity_of_offer_eq_taken offered]
    exact kept count
  fold _ _ prompt := prompt.modify fun _ _ kept => kept
  call _ _ _ _ prompt := prompt
  mark _ _ _ prompt := prompt.modify fun _ _ kept => kept
  remove _ prompt := prompt
  unmatched _ _ prompt := prompt
  cutOff _ prompt := prompt

theorem stableUnder_isPromptAt (number : Nat) :
    StableUnder bareHost (fun _ => True) (IsPromptAt number) where
  toStable := stable_isPromptAt number
  cancel _ prompt := prompt
  close prompt := prompt
  giveUp _ prompt := prompt

/-- While no entries are added, a session stays prompt. -/
theorem stableUnder_isPrompt : StableUnder bareHost (fun _ => True) IsPrompt where
  entry _ _ := trivial
  log level source message prompt number member :=
    (stable_isPromptAt number).log level source message (prompt number member)
  receipt receipt prompt number member :=
    (stable_isPromptAt number).receipt receipt (prompt number member)
  conclude error concerned known outstanding prompt number member := by
    rw [listed, dispatcher_conclude] at member
    exact (stable_isPromptAt number).conclude error concerned known outstanding
      (prompt number member)
  queue concerned known handler offered prompt number member :=
    (stable_isPromptAt number).queue concerned known handler offered (prompt number member)
  fold sentence concerned prompt number member :=
    (stable_isPromptAt number).fold sentence concerned (prompt number member)
  call sentence concerned known handler prompt number member :=
    (stable_isPromptAt number).call sentence concerned known handler (prompt number member)
  mark concerned known outstanding prompt number member :=
    (stable_isPromptAt number).mark concerned known outstanding (prompt number member)
  remove tag prompt number member :=
    prompt number ((Assoc.erase_sublist tag _).map Prod.snd |>.subset member)
  unmatched error sentence prompt number member :=
    (stable_isPromptAt number).unmatched error sentence (prompt number member)
  cutOff error _ number member := absurd member List.not_mem_nil
  cancel _ prompt := prompt
  close prompt := prompt
  giveUp _ prompt := prompt

/-! ## Completion -/

theorem mounted_announce
    {request : Request}
    (prompt : request.handler.IsPrompt)
    (error : Option Error) :
    mounted link log (announce id number request error bare) =
      announce close number request error (bare.mount link log) := by
  unfold announce
  cases handler : request.handler with
  | listener queue =>
      simp only
      cases queue.offer none with
      | taken | full | failed => rfl
  | callbacks onSentence onComplete =>
      cases onComplete with
      | none => rfl
      | some reaction =>
          rw [handler] at prompt
          cases reaction with
          | observe | raise => rfl
          | cancel | close => exact (prompt.2 _ rfl).elim

/-- Completing a prompt request asks nothing of the connection. -/
theorem mounted_finish
    (prompt : bare.IsPromptAt number)
    (error : Option Error) :
    mounted link log (bare.finish id number error) =
      (bare.mount link log).finish close number error := by
  have same : (bare.mount link log).request? number = bare.request? number := rfl
  unfold Session.finish
  rw [same]
  cases known : bare.request? number with
  | none => rfl
  | some request =>
      simp only
      split
      · rfl
      · exact mounted_announce (prompt request known) error

theorem mount_finishLogged
    (prompt : bare.IsPromptAt number)
    (label : Text)
    (error : Option Error) :
    (bare.finishLogged id label number error).mount link log =
      (bare.mount link log).finishLogged close label number error := by
  unfold Session.finishLogged
  rw [← mounted_finish prompt]
  cases bare.finish id number error with
  | mk outcome after =>
      cases outcome with
      | ok => rfl
      | error => exact mount_log _ _ _

theorem mount_failEach
    {entries : List (Text × Nat)}
    (prompt : ∀ entry ∈ entries, bare.IsPromptAt entry.2)
    (error : Error) :
    (bare.failEach id error entries).mount link log =
      (bare.mount link log).failEach close error entries := by
  induction entries generalizing bare with
  | nil => rfl
  | cons entry rest inductionHypothesis =>
      obtain ⟨first, others⟩ := List.forall_mem_cons.mp prompt
      unfold failEach
      rw [← mount_finishLogged first]
      refine inductionHypothesis fun other member => ?_
      exact (stable_isPromptAt other.2).toCompletes.finishLogged id entry.1 (some error) trivial
        (others other member)

/-- Completing all outstanding requests asks nothing of the connection if they are prompt. -/
theorem mount_failAll
    (prompt : bare.IsPrompt)
    (error : Error) :
    (bare.failAll id error).mount link log = (bare.mount link log).failAll close error :=
  have cutOff : ∀ entry ∈ bare.dispatcher.pending, (bare.cutOff error).IsPromptAt entry.2 :=
    fun _ member => prompt _ (List.mem_map_of_mem member)
  mount_failEach cutOff error

/-! ## Dispatch -/

/-- Handing a data sentence to a prompt request asks nothing of the connection. -/
theorem mounted_deliver
    (prompt : bare.IsPromptAt number)
    (sentence : Sentence) :
    mounted link log (bare.deliver bareHost number sentence) =
      (bare.mount link log).deliver host number sentence := by
  have same : (bare.mount link log).request? number = bare.request? number := rfl
  unfold Session.deliver
  rw [same]
  cases known : bare.request? number with
  | none => rfl
  | some request =>
      have promptRequest := prompt request known
      simp only
      cases handler : request.handler with
      | callbacks onSentence onComplete =>
          cases onSentence with
          | none => rfl
          | some reaction =>
              rw [handler] at promptRequest
              cases reaction with
              | observe | raise => rfl
              | cancel | close => exact (promptRequest.1 _ rfl).elim
      | listener queue =>
          rw [handler] at promptRequest
          simp only
          cases offered : queue.offer (some sentence) with
          | taken | failed => rfl
          | full => exact absurd offered (Queue.offer_ne_full promptRequest _)

theorem mount_abandon
    (prompt : bare.IsPromptAt number)
    (error : Error) :
    (bare.abandon bareHost tag number error).mount link log =
      (bare.mount link log).abandon host tag number error := by
  unfold Session.abandon
  rw [← mount_log]
  exact mount_finishLogged ((stable_isPromptAt number).remove tag
    ((stable_isPromptAt number).log _ _ _ prompt)) tag (some error)

theorem mount_retire
    (prompt : bare.IsPromptAt number) :
    (bare.retire bareHost tag number).mount link log =
      (bare.mount link log).retire host tag number := by
  have same : ((bare.mount link log).remove tag).request? number =
      (bare.remove tag).request? number := rfl
  unfold Session.retire
  simp only [same]
  cases (bare.remove tag).request? number with
  | none => rfl
  | some request =>
      exact mount_finishLogged ((stable_isPromptAt number).remove tag prompt) tag _

theorem mounted_feed
    (prompt : bare.IsPromptAt number)
    (sentence : Sentence) :
    mounted link log (bare.feed bareHost tag number sentence) =
      (bare.mount link log).feed host tag number sentence := by
  have folds : (bare.mount link log).modify number (fun request =>
      { request with reply := request.reply.process sentence }) =
      (bare.modify number fun request =>
        { request with reply := request.reply.process sentence }).mount link log := rfl
  have promptFolded : (bare.modify number fun request =>
      { request with reply := request.reply.process sentence }).IsPromptAt number :=
    (stable_isPromptAt number).fold sentence trivial prompt
  by_cases data : sentence.control = .data
  · rw [feed_of_data bareHost data, feed_of_data host data, folds]
    generalize bare.modify number _ = folded at promptFolded ⊢
    have promptAfter : (folded.deliver bareHost number sentence).2.IsPromptAt number :=
      (stableUnder_isPromptAt number).upholds.deliver tag sentence trivial promptFolded
    rw [← mounted_deliver promptFolded]
    cases delivered : folded.deliver bareHost number sentence with
    | mk delivery after =>
        rw [delivered] at promptAfter
        cases delivery with
        | accepted | stalled => rfl
        | failed error => exact congrArg (Prod.mk _) (mount_abandon promptAfter error)
  · rw [feed_of_ne_data bareHost data, feed_of_ne_data host data, folds,
      ← mount_retire promptFolded]
    cases sentence.isTerminal with
    | true => rfl
    | false => rfl

/-- Dispatching a sentence asks nothing of the connection if the outstanding requests are prompt. -/
theorem mounted_dispatch
    (prompt : bare.IsPrompt)
    (sentence : Sentence) :
    mounted link log (bare.dispatch bareHost sentence) =
      (bare.mount link log).dispatch host sentence := by
  have mount_unmatched (error : Error) : (bare.unmatched error sentence).mount link log =
      (bare.mount link log).unmatched error sentence := mount_log _ _ _
  unfold Session.dispatch
  cases sentence.tag with
  | none =>
      simp only
      cases sentence.control with
      | blank | fatal => rfl
      | data | done | empty | trap | unknown => exact congrArg (Prod.mk _) (mount_unmatched _)
  | some tag =>
      have same : (bare.mount link log).lookup? tag = bare.lookup? tag := rfl
      simp only [same]
      cases found : bare.lookup? tag with
      | none => exact congrArg (Prod.mk _) (mount_unmatched _)
      | some number =>
          have listed : number ∈ bare.listed :=
            List.mem_map_of_mem (Assoc.mem_of_get?_eq_some found)
          exact mounted_feed (prompt number listed) sentence

/-! ## Sessions with a connection -/

@[simp] theorem unmounted_mount (bare : Session Unit) :
    (bare.mount link log).unmounted = bare.unmounted := rfl

@[simp] theorem unmounted_log
    (level : LogLevel)
    (source : LogSource)
    (message : Text)
    (session : Session Λ) :
    (session.log level source message).unmounted = session.unmounted := rfl

/-- Promptness is no matter of the connection. -/
theorem IsPrompt.congr
    {Μ : Type}
    {other : Session Μ}
    (prompt : session.IsPrompt)
    (same : other.unmounted = session.unmounted) :
    other.IsPrompt := by
  have promptOther : other.unmounted.IsPrompt :=
    same ▸ (show session.unmounted.IsPrompt from prompt)
  exact promptOther

theorem dispatch_eq_mounted
    (prompt : session.IsPrompt)
    (host : Host Λ)
    (sentence : Sentence) :
    session.dispatch host sentence =
      mounted session.link session.journal.log (session.unmounted.dispatch bareHost sentence) := by
  have promptBare : session.unmounted.IsPrompt := prompt
  rw [mounted_dispatch promptBare, mount_unmounted]

/-- A sentence has the same outcome in two sessions that are the same but for their connections and
logs, and they stay so. -/
theorem IsPrompt.dispatch_congr
    {Μ : Type}
    {other : Session Μ}
    (prompt : session.IsPrompt)
    (same : other.unmounted = session.unmounted)
    (host : Host Λ)
    (otherHost : Host Μ)
    (sentence : Sentence) :
    (other.dispatch otherHost sentence).1 = (session.dispatch host sentence).1 ∧
      (other.dispatch otherHost sentence).2.unmounted =
        (session.dispatch host sentence).2.unmounted := by
  rw [dispatch_eq_mounted prompt, dispatch_eq_mounted (prompt.congr same), same]
  exact ⟨rfl, rfl⟩

/-- Completing all requests comes to the same apart from the connection and the log. -/
theorem IsPrompt.unmounted_failAll
    (prompt : session.IsPrompt)
    (close : Session Λ → Session Λ)
    (error : Error) :
    (session.failAll close error).unmounted =
      (session.unmounted.failAll id error).unmounted := by
  have promptBare : session.unmounted.IsPrompt := prompt
  have mounts : (session.unmounted.failAll id error).mount session.link session.journal.log =
      session.failAll close error := by
    rw [mount_failAll promptBare, mount_unmounted]
  rw [← mounts, unmounted_mount]

/-- Nothing becomes of the connection. -/
theorem IsPrompt.link_dispatch
    (prompt : session.IsPrompt)
    (host : Host Λ)
    (sentence : Sentence) :
    (session.dispatch host sentence).2.link = session.link := by
  rw [dispatch_eq_mounted prompt]
  rfl

theorem IsPrompt.dispatch
    (prompt : session.IsPrompt)
    (host : Host Λ)
    (sentence : Sentence) :
    (session.dispatch host sentence).2.IsPrompt := by
  rw [dispatch_eq_mounted prompt]
  have promptBare : session.unmounted.IsPrompt := prompt
  exact stableUnder_isPrompt.upholds.dispatch sentence promptBare

/-- No prompt request holds anything up. -/
theorem IsPrompt.dispatch_ne_stalled
    (prompt : session.IsPrompt)
    (host : Host Λ)
    (sentence : Sentence)
    (number : Nat) :
    (session.dispatch host sentence).1 ≠ .stalled number := by
  rw [dispatch_eq_mounted prompt]
  intro stalled
  cases result : session.unmounted.dispatch bareHost sentence with
  | mk outcome after =>
      rw [result] at stalled
      cases stalled
      obtain ⟨tag, -, held⟩ := dispatch_eq_stalled result
      obtain ⟨-, request, queue, -, -, -, waiting⟩ := deliver_eq_stalled held
      cases waiting

end Session
end RouterApi
