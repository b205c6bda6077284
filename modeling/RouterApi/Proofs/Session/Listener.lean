import RouterApi.Proofs.Session.Failing
import RouterApi.Session.Listening

/-!
# The queue of a listener

A listener collects sentences while it is registered. Once it is complete, no entry of the table
leads to it, and a mark of the end follows the sentences in its queue unless there was no room for
it. This module says what each step of a session makes of the sentences in the queue.
-/

namespace RouterApi

/-- The sentences in a queue, without marks of the end. -/
def Queue.sentences (queue : Queue) : List Sentence :=
  queue.items.filterMap id

/-- A capacity that can be compared with a count of items makes no offer fail. -/
theorem Queue.offer_eq_taken_or_full
    {queue : Queue}
    (usable : queue.capacity ≠ .unusable)
    (item : Option Sentence) :
    queue.offer item = .taken { queue with items := queue.items ++ [item] } ∨
      queue.offer item = .full := by
  unfold offer
  split
  · exact .inl rfl
  · split
    · exact .inl rfl
    · exact .inr rfl
  · contradiction

/-- The sentences before a mark of the end are taken, and the mark with them. -/
theorem Queue.takeAll_append
    {mark : List (Option Sentence)}
    (marks : mark = [] ∨ mark = [none])
    (sentences : List Sentence) :
    Queue.takeAll (sentences.map some ++ mark) = (sentences, []) := by
  induction sentences with
  | nil =>
      rcases marks with rfl | rfl
      · rfl
      · rfl
  | cons sentence rest inductionHypothesis =>
      rw [List.map_cons, List.cons_append, takeAll, inductionHypothesis]

/-- The completion of a listener puts at most a mark of the end into its queue. -/
theorem Request.handler_completed
    {request : Request}
    {queue : Queue}
    (handler : request.handler = .listener queue)
    (error : Option Error) :
    ∃ mark, (mark = [] ∨ mark = [none]) ∧
      (request.completed error).1.handler =
        .listener { queue with items := queue.items ++ mark } := by
  unfold completed
  split
  · exact ⟨[], .inl rfl, by simpa using handler⟩
  · unfold announced
    simp only [handler]
    cases offered : queue.offer none with
    | taken changed =>
        rw [Queue.eq_of_offer_eq_taken offered]
        exact ⟨[none], .inr rfl, rfl⟩
    | full | failed => exact ⟨[], .inl rfl, by simp⟩

namespace Session

variable {Λ : Type}

/-- The queue of a listener. -/
def queue?
    (number : Nat)
    (session : Session Λ) : Option Queue :=
  match session.request? number with
  | some { handler := .listener queue, .. } => some queue
  | _ => none

/-- The sentences in the queue of a listener. -/
def queued
    (number : Nat)
    (session : Session Λ) : List Sentence :=
  ((session.queue? number).map Queue.sentences).getD []

/-- A listener, whether it is complete, and the sentences in its queue. -/
inductive IsListener
    (number : Nat)
    (tag : Text)
    (capacity : Capacity)
    (session : Session Λ) : Bool → List Sentence → Prop
  | collecting {request sentences}
      (known : session.request? number = some request)
      (registered : session.lookup? tag = some number)
      (incomplete : request.isDone = false)
      (handler : request.handler = .listener { capacity, items := sentences.map some }) :
      IsListener number tag capacity session false sentences
  | complete {request sentences mark}
      (known : session.request? number = some request)
      (retired : session.lookup? tag = none)
      (complete : request.isDone = true)
      (handler : request.handler = .listener { capacity, items := sentences.map some ++ mark })
      (marks : mark = [] ∨ mark = [none]) :
      IsListener number tag capacity session true sentences

/-- A data sentence for a listener is queued if there is room for it. If there is none, it waits,
unless the host gives up waiting; then it is discarded. -/
inductive Accepts
    (host : Host Λ)
    (number : Nat)
    (tag : Text)
    (capacity : Capacity)
    (session : Session Λ)
    (sentences : List Sentence)
    (sentence : Sentence) : Dispatched × Session Λ → Prop
  | queued {after}
      (listener : after.IsListener number tag capacity false (sentences ++ [sentence])) :
      Accepts host number tag capacity session sentences sentence (.handled, after)
  | waiting {after}
      (full : Queue.offer (some sentence) { capacity, items := sentences.map some } = .full) :
      Accepts host number tag capacity session sentences sentence (.stalled number, after)
  | discarded {link after}
      (full : Queue.offer (some sentence) { capacity, items := sentences.map some } = .full)
      (givenUp : host.giveUp? session.link = some link)
      (listener : after.IsListener number tag capacity false sentences) :
      Accepts host number tag capacity session sentences sentence (.handled, after)

/-- Asking a listener for one sentence after the other, until there are no more. -/
inductive Exhausts (number : Nat) : Session Λ → List Sentence → Session Λ → Prop
  | ended {session after}
      (taken : session.takeNext? number = some (.ended, after)) :
      Exhausts number session [] after
  | next {session between after sentence rest}
      (taken : session.takeNext? number = some (.sentence sentence, between))
      (later : Exhausts number between rest after) :
      Exhausts number session (sentence :: rest) after

variable
  {close : Session Λ → Session Λ}
  {host : Host Λ}
  {session after : Session Λ}
  {number : Nat}
  {tag : Text}
  {capacity : Capacity}
  {isDone : Bool}
  {sentences : List Sentence}
  {sentence : Sentence}

theorem queue?_of_handler
    {request : Request}
    {queue : Queue}
    (known : session.request? number = some request)
    (handler : request.handler = .listener queue) :
    session.queue? number = some queue := by
  obtain ⟨tag, words, _, reply, cancelled, outcome⟩ := request
  cases handler
  simp [queue?, known]

/-- Replacing the items twice is replacing them once. -/
theorem setItems_setItems
    (number : Nat)
    (capacity : Capacity)
    (first second middle last : List (Option Sentence))
    (session : Session Λ) :
    (session.setItems number { capacity, items := first } middle).setItems number
        { capacity, items := second } last =
      session.setItems number { capacity, items := first } last := by
  simp only [setItems, modify, Dispatcher.modify, List.modify_modify_eq]
  rfl

theorem setItems_self
    {request : Request}
    {queue : Queue}
    (known : session.request? number = some request)
    (handler : request.handler = .listener queue) :
    session.setItems number queue queue.items = session := by
  have requests_eq : session.dispatcher.requests.modify number
      (fun request => { request with handler := .listener queue }) =
      session.dispatcher.requests := by
    apply List.ext_getElem?
    intro other
    by_cases same : number = other
    · subst same
      obtain ⟨tag, words, _, reply, cancelled, outcome⟩ := request
      cases handler
      have found : session.dispatcher.requests[number]? = some _ := known
      rw [List.getElem?_modify_eq, found]
      rfl
    · rw [List.getElem?_modify_ne _ _ same]
  simp only [setItems, modify, Dispatcher.modify, requests_eq]

/-- What reading from a listener comes to depends on the first item in its queue. -/
theorem takeNext?_of_handler
    {request : Request}
    {queue : Queue}
    (known : session.request? number = some request)
    (handler : request.handler = .listener queue) :
    session.takeNext? number =
      match queue.items with
      | [] => some (if request.isDone then .ended else .waiting, session)
      | none :: rest => some (.ended, session.setItems number queue rest)
      | some sentence :: rest =>
          some (.sentence sentence, session.setItems number queue rest) := by
  obtain ⟨tag, words, _, reply, cancelled, outcome⟩ := request
  cases handler
  simp only [takeNext?, known]
  rfl

theorem takeAll?_of_handler
    {request : Request}
    {queue : Queue}
    (known : session.request? number = some request)
    (handler : request.handler = .listener queue) :
    session.takeAll? number =
      if request.isDone then
        some (some (Queue.takeAll queue.items).1,
          session.setItems number queue (Queue.takeAll queue.items).2)
      else some (none, session) := by
  obtain ⟨tag, words, _, reply, cancelled, outcome⟩ := request
  cases handler
  simp only [takeAll?, known]
  rfl

namespace IsListener

theorem exists_request (listener : session.IsListener number tag capacity isDone sentences) :
    ∃ request mark, session.request? number = some request ∧ request.isDone = isDone ∧
      request.handler = .listener { capacity, items := sentences.map some ++ mark } ∧
      (mark = [] ∨ isDone = true ∧ mark = [none]) := by
  cases listener with
  | collecting known registered incomplete handler =>
      exact ⟨_, [], known, incomplete, by simpa using handler, .inl rfl⟩
  | complete known retired complete handler marks =>
      exact ⟨_, _, known, complete, handler, marks.imp_right fun mark => ⟨rfl, mark⟩⟩

theorem lookup?_eq (listener : session.IsListener number tag capacity false sentences) :
    session.lookup? tag = some number := by
  cases listener with
  | collecting known registered => exact registered

theorem lookup?_eq_none (listener : session.IsListener number tag capacity true sentences) :
    session.lookup? tag = none := by
  cases listener with
  | complete known retired => exact retired

theorem queue?_eq (listener : session.IsListener number tag capacity isDone sentences) :
    ∃ mark, (mark = [] ∨ mark = [none]) ∧
      session.queue? number = some { capacity, items := sentences.map some ++ mark } := by
  obtain ⟨request, mark, known, -, handler, marks⟩ := listener.exists_request
  exact ⟨mark, marks.imp_right And.right, queue?_of_handler known handler⟩

theorem queue?_of_collecting
    (listener : session.IsListener number tag capacity false sentences) :
    session.queue? number = some { capacity, items := sentences.map some } := by
  cases listener with
  | collecting known registered incomplete handler => exact queue?_of_handler known handler

theorem queued_eq (listener : session.IsListener number tag capacity isDone sentences) :
    session.queued number = sentences := by
  obtain ⟨mark, marks, queue_eq⟩ := listener.queue?_eq
  rcases marks with rfl | rfl
  · simp [queued, queue_eq, Queue.sentences]
  · simp [queued, queue_eq, Queue.sentences]

theorem isDone_eq (listener : session.IsListener number tag capacity isDone sentences) :
    (session.request? number).any Request.isDone = isDone := by
  obtain ⟨request, -, known, done, -, -⟩ := listener.exists_request
  rw [known, Option.any_some, done]

/-- A listener only depends on the requests and the table. -/
theorem congr
    (listener : session.IsListener number tag capacity isDone sentences)
    (requests_eq : after.dispatcher.requests = session.dispatcher.requests)
    (pending_eq : after.dispatcher.pending = session.dispatcher.pending) :
    after.IsListener number tag capacity isDone sentences := by
  have lookup_eq : after.lookup? tag = session.lookup? tag := by
    rw [lookup?, pending_eq, lookup?]
  have request_eq : after.request? number = session.request? number :=
    congrArg (·[number]?) requests_eq
  cases listener with
  | collecting known registered incomplete handler =>
      exact .collecting (request_eq.trans known) (lookup_eq.trans registered) incomplete handler
  | complete known retired complete handler marks =>
      exact .complete (request_eq.trans known) (lookup_eq.trans retired) complete handler marks

/-! ## Completion -/

/-- A listener that is completed and taken out of the table keeps its sentences. -/
theorem completed
    (listener : session.IsListener number tag capacity isDone sentences)
    (error : Option Error)
    (request_eq : after.request? number =
      (session.request? number).map fun request => (request.completed error).1)
    (retired : after.lookup? tag = none) :
    after.IsListener number tag capacity true sentences := by
  cases listener with
  | @collecting request _ known registered incomplete handler =>
      obtain ⟨mark, marks, completed⟩ := Request.handler_completed handler error
      rw [known] at request_eq
      exact .complete request_eq retired (Request.isDone_completed error request) completed marks
  | complete known _ complete handler marks =>
      rw [known, Option.map_some, Request.completed_of_isDone complete] at request_eq
      exact .complete request_eq retired complete handler marks

/-- Completing all outstanding requests completes a listener. -/
theorem failAll
    (listener : session.IsListener number tag capacity isDone sentences)
    (idle : IsIdle close)
    (error : Error) :
    (session.failAll close error).IsListener number tag capacity true sentences := by
  have request_eq := request?_failAll idle error session number
  have retired : (session.failAll close error).lookup? tag = none := by
    rw [lookup?, pending_failAll idle]
    rfl
  apply listener.completed (some error) ?_ retired
  rw [request_eq]
  split
  · rfl
  · rename_i unlisted
    cases listener with
    | collecting known registered =>
        exact absurd (List.mem_map_of_mem (Assoc.mem_of_get?_eq_some registered)) unlisted
    | complete known retired complete =>
        simp [known, Request.completed_of_isDone complete]

/-- Completing a listener under a tag that has been taken out of the table. -/
theorem finishLogged
    (listener : session.IsListener number tag capacity isDone sentences)
    (distinct : (Assoc.keys session.dispatcher.pending).Nodup)
    (close : Session Λ → Session Λ)
    (error : Option Error) :
    ((session.remove tag).finishLogged close tag number error).IsListener number tag capacity true
      sentences := by
  have keepsOpen : ∀ request, (session.remove tag).request? number = some request →
      request.isDone = false → request.handler.closes = false := by
    obtain ⟨request, mark, known, -, handler, -⟩ := listener.exists_request
    intro other found _
    cases known.symm.trans found
    rw [handler]
    rfl
  have finished : ((session.remove tag).finish close number error).2.IsListener number tag capacity
      true sentences := by
    rw [finish_eq_of_not_closes keepsOpen]
    apply listener.completed error
    · rw [request?_finish (fun _ => rfl), if_pos rfl]
      rfl
    · rw [lookup?_finish_id]
      exact Assoc.get?_erase_self distinct tag
  rcases finishLogged_eq close tag number error (session.remove tag) with same | same
  · rwa [same]
  · rw [same]
    exact finished.congr rfl rfl

/-! ## Dispatch -/

/-- Changing something else about the request leaves the queue alone. -/
theorem modify
    (listener : session.IsListener number tag capacity isDone sentences)
    {change : Request → Request}
    (handler_eq : ∀ request, (change request).handler = request.handler)
    (isDone_eq : ∀ request, (change request).isDone = request.isDone) :
    (session.modify number change).IsListener number tag capacity isDone sentences := by
  cases listener with
  | @collecting request _ known registered incomplete handler =>
      have changed : (session.modify number change).request? number = some (change request) := by
        rw [request?_modify, if_pos rfl, known, Option.map_some]
      exact .collecting changed registered ((isDone_eq request).trans incomplete)
        ((handler_eq request).trans handler)
  | @complete request _ mark known retired complete handler marks =>
      have changed : (session.modify number change).request? number = some (change request) := by
        rw [request?_modify, if_pos rfl, known, Option.map_some]
      exact .complete changed retired ((isDone_eq request).trans complete)
        ((handler_eq request).trans handler) marks

theorem fold
    (listener : session.IsListener number tag capacity isDone sentences)
    (sentence : Sentence) :
    (session.modify number fun request =>
        { request with reply := request.reply.process sentence }).IsListener
      number tag capacity isDone sentences :=
  listener.modify (fun _ => rfl) (fun _ => rfl)

/-- A terminal sentence completes a listener. -/
theorem retire
    (listener : session.IsListener number tag capacity isDone sentences)
    (distinct : (Assoc.keys session.dispatcher.pending).Nodup)
    (host : Host Λ) :
    (session.retire host tag number).IsListener number tag capacity true sentences := by
  obtain ⟨request, mark, known, -⟩ := listener.exists_request
  have kept : (session.remove tag).request? number = some request := known
  unfold Session.retire
  simp only [kept]
  exact listener.finishLogged distinct host.close request.finalError

/-- Sentences of its tag do not reach a complete listener. -/
theorem dispatch_of_complete
    (listener : session.IsListener number tag capacity true sentences)
    (host : Host Λ)
    (tagged : sentence.tag = some tag) :
    session.dispatch host sentence =
      (.handled, session.unmatched (.unregistered tag) sentence) :=
  dispatch_of_lookup?_eq_none host tagged listener.lookup?_eq_none

/-- Unless a data sentence is dispatched to a listener that is collecting, its queue stays as it is,
but for a mark of the end. -/
theorem dispatch_of_other
    (listener : session.IsListener number tag capacity isDone sentences)
    (distinct : (Assoc.keys session.dispatcher.pending).Nodup)
    (host : Host Λ)
    (tagged : sentence.tag = some tag)
    (other : isDone = true ∨ sentence.control ≠ .data) :
    (∀ held, (session.dispatch host sentence).1 ≠ .stalled held) ∧
      ∃ isDoneAfter, (isDone = true → isDoneAfter = true) ∧
        (session.dispatch host sentence).2.IsListener number tag capacity isDoneAfter
          sentences := by
  cases isDone with
  | true =>
      rw [listener.dispatch_of_complete host tagged]
      exact ⟨nofun, true, fun _ => rfl, listener.congr rfl rfl⟩
  | false =>
      rw [dispatch_of_lookup?_eq_some host tagged listener.lookup?_eq]
      cases terminal : sentence.isTerminal with
      | true =>
          rw [feed_of_terminal host terminal]
          refine ⟨?_, true, fun _ => rfl, (listener.fold sentence).retire distinct host⟩
          intro held
          split
          · exact nofun
          · exact nofun
      | false =>
          have notData : sentence.control ≠ .data := other.resolve_left nofun
          rw [feed_of_other host notData terminal]
          exact ⟨nofun, false, id, listener.fold sentence⟩

/-- A sentence is queued at the end if there is room for it. -/
theorem deliver_of_taken
    (listener : session.IsListener number tag capacity false sentences)
    (host : Host Λ)
    {queue : Queue}
    (taken : Queue.offer (some sentence) { capacity, items := sentences.map some } = .taken queue) :
    ∃ after, session.deliver host number sentence = (.accepted, after) ∧
      after.IsListener number tag capacity false (sentences ++ [sentence]) := by
  cases listener with
  | @collecting request _ known registered incomplete handler =>
      refine ⟨session.modify number fun request => { request with handler := .listener queue },
        by simp [deliver, known, handler, taken], ?_⟩
      have changed : (session.modify number fun request =>
          { request with handler := .listener queue }).request? number =
          some { request with handler := .listener queue } := by
        rw [request?_modify, if_pos rfl, known, Option.map_some]
      apply collecting changed registered incomplete
      rw [Queue.eq_of_offer_eq_taken taken]
      simp

/-- If there is none, it waits or is discarded, which leaves the queue as it is. -/
theorem deliver_of_full
    (listener : session.IsListener number tag capacity false sentences)
    (host : Host Λ)
    (full : Queue.offer (some sentence) { capacity, items := sentences.map some } = .full) :
    session.deliver host number sentence = (.stalled, session) ∨
      ∃ link after, host.giveUp? session.link = some link ∧
        session.deliver host number sentence = (.accepted, after) ∧
        after.IsListener number tag capacity false sentences := by
  cases listener with
  | @collecting request _ known registered incomplete handler =>
      cases givenUp : host.giveUp? session.link with
      | none => exact .inl (Session.deliver_of_full known handler full givenUp)
      | some link =>
          refine .inr ⟨link, ({ session with link } : Session Λ).log .debug .request
            (literal "listener " ++ request.tag ++ literal ": discarding " ++ sentence.summary),
            rfl, by simp [deliver, known, handler, full, givenUp], ?_⟩
          exact .collecting known registered incomplete handler

theorem accepts_dispatch
    (listener : session.IsListener number tag capacity false sentences)
    (usable : capacity ≠ .unusable)
    (host : Host Λ)
    (tagged : sentence.tag = some tag)
    (data : sentence.control = .data) :
    Accepts host number tag capacity session sentences sentence
      (session.dispatch host sentence) := by
  have folded := listener.fold sentence
  rw [dispatch_of_lookup?_eq_some host tagged listener.lookup?_eq, feed_of_data host data]
  have offered : _ ∨ Queue.offer (some sentence) { capacity, items := sentences.map some } = _ :=
    Queue.offer_eq_taken_or_full usable (some sentence)
  rcases offered with taken | full
  · obtain ⟨after, delivered, listenerAfter⟩ := folded.deliver_of_taken host taken
    rw [delivered]
    exact .queued listenerAfter
  · rcases folded.deliver_of_full host full with delivered | ⟨link, after, givenUp, delivered, kept⟩
    · rw [delivered]
      exact .waiting full
    · rw [delivered]
      exact .discarded full givenUp kept

/-! ## Reading -/

/-- Replacing the items in the queue. -/
theorem setItems
    (listener : session.IsListener number tag capacity isDone sentences)
    {mark : List (Option Sentence)}
    (marks : mark = [] ∨ isDone = true ∧ mark = [none])
    (items : List (Option Sentence))
    (left : List Sentence) :
    (session.setItems number { capacity, items } (left.map some ++ mark)).IsListener number tag
      capacity isDone left := by
  have changed {request : Request} (known : session.request? number = some request) :
      (session.setItems number { capacity, items } (left.map some ++ mark)).request? number =
        some { request with
          handler := Handler.listener { capacity, items := left.map some ++ mark } } := by
    rw [Session.setItems, request?_modify, if_pos rfl, known, Option.map_some]
  cases listener with
  | collecting known registered incomplete =>
      rcases marks with rfl | ⟨done, -⟩
      · exact .collecting (changed known) registered incomplete (by simp)
      · contradiction
  | complete known retired complete =>
      exact .complete (changed known) retired complete rfl (marks.imp_right And.right)

/-- Nothing is left of a complete listener once all has been taken. -/
theorem emptied
    (listener : session.IsListener number tag capacity true sentences) :
    (session.setItems number { capacity } []).IsListener number tag capacity true [] :=
  listener.setItems (.inl rfl) [] []

/-- The next sentence of a listener is the first in its queue. -/
theorem takeNext?_cons
    (listener : session.IsListener number tag capacity isDone (sentence :: sentences)) :
    ∃ items left, session.takeNext? number =
        some (.sentence sentence, session.setItems number { capacity, items } left) ∧
      (session.setItems number { capacity, items } left).IsListener number tag capacity isDone
        sentences := by
  obtain ⟨request, mark, known, done, handler, marks⟩ := listener.exists_request
  exact ⟨_, _, takeNext?_of_handler known handler, listener.setItems marks _ sentences⟩

/-- While a listener is collecting, reading from its empty queue waits. -/
theorem takeNext?_of_collecting
    (listener : session.IsListener number tag capacity false []) :
    session.takeNext? number = some (.waiting, session) := by
  cases listener with
  | collecting known registered incomplete handler =>
      rw [takeNext?_of_handler known handler]
      simp [incomplete]

/-- Once it is complete, reading ends, whether or not there is a mark. -/
theorem takeNext?_of_complete
    (listener : session.IsListener number tag capacity true []) :
    session.takeNext? number = some (.ended, session.setItems number { capacity } []) := by
  cases listener with
  | complete known retired complete handler marks =>
      rw [takeNext?_of_handler known handler]
      rcases marks with rfl | rfl
      · have unchanged : session.setItems number { capacity } [] = session :=
          setItems_self known handler
        rw [unchanged]
        simp [complete]
      · rfl

/-- Reading on from a complete listener gives the sentences in its queue, and ends. -/
theorem exhausts
    (listener : session.IsListener number tag capacity true sentences) :
    Exhausts number session sentences (session.setItems number { capacity } []) := by
  induction sentences generalizing session with
  | nil => exact .ended listener.takeNext?_of_complete
  | cons sentence rest inductionHypothesis =>
      obtain ⟨items, left, taken, listenerNext⟩ := listener.takeNext?_cons
      have later := inductionHypothesis listenerNext
      rw [setItems_setItems] at later
      exact .next taken later

/-- Taking all sentences of a complete listener is the same as reading on until the end. -/
theorem takeAll?_of_complete
    (listener : session.IsListener number tag capacity true sentences) :
    session.takeAll? number =
      some (some sentences, session.setItems number { capacity } []) := by
  cases listener with
  | complete known retired complete handler marks =>
      rw [takeAll?_of_handler known handler, Queue.takeAll_append marks, if_pos complete]
      rfl

/-- While a listener is collecting, there is no end to take all its sentences up to. -/
theorem takeAll?_of_collecting
    (listener : session.IsListener number tag capacity false sentences) :
    session.takeAll? number = some (none, session) := by
  cases listener with
  | collecting known registered incomplete handler =>
      rw [takeAll?_of_handler known handler]
      simp [incomplete]

end IsListener
end Session
end RouterApi
