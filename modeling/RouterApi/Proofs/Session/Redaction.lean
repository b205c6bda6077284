import RouterApi.Proofs.Session.Outcomes

/-!
# Redacted sessions

A session without the words of the commands it has issued, and without what the connection hides.
What a session does to its requests does not depend on the words, so redacting it before or after
makes no difference, as long as the host does the same to redacted sessions.
-/

namespace RouterApi

/-- A request without the words of its command. -/
def Request.redact (request : Request) : Request :=
  { request with words := [] }

/-- A dispatcher whose requests are redacted. -/
def Dispatcher.redact (dispatcher : Dispatcher) : Dispatcher :=
  { dispatcher with requests := dispatcher.requests.map Request.redact }

namespace Session

variable {Λ : Type}

/-- A session whose requests are redacted, and whose connection is hidden in some way. -/
def redact
    (hide : Λ → Λ)
    (session : Session Λ) : Session Λ :=
  { session with dispatcher := session.dispatcher.redact, link := hide session.link }

/-- The result of a step, and the redacted session after it. -/
def redacted
    {α : Type}
    (hide : Λ → Λ)
    (outcome : α × Session Λ) : α × Session Λ :=
  (outcome.1, outcome.2.redact hide)

variable
  {hide : Λ → Λ}
  {session : Session Λ}
  {number : Nat}

theorem request?_redact
    (hide : Λ → Λ)
    (number : Nat)
    (session : Session Λ) :
    (session.redact hide).request? number = (session.request? number).map Request.redact :=
  List.getElem?_map

theorem redact_modify
    (hide : Λ → Λ)
    (number : Nat)
    (change : Request → Request)
    (session : Session Λ)
    (commutes : ∀ request, (change request).redact = change request.redact) :
    (session.modify number change).redact hide = (session.redact hide).modify number change := by
  have requests_eq : (session.dispatcher.requests.modify number change).map Request.redact =
      (session.dispatcher.requests.map Request.redact).modify number change := by
    refine List.ext_getElem? fun other => ?_
    rw [List.getElem?_map, List.getElem?_modify, List.getElem?_modify, List.getElem?_map]
    cases session.dispatcher.requests[other]? with
    | none => rfl
    | some request =>
        by_cases same : number = other
        · simp [same, commutes]
        · simp [same]
  simp only [modify, redact, Dispatcher.modify, Dispatcher.redact, requests_eq]

/-! ## Completion -/

section Completion

variable {close mirror : Session Λ → Session Λ}

theorem redacted_announce
    (mirrors : ∀ session, (close session).redact hide = mirror (session.redact hide))
    (number : Nat)
    (request : Request)
    (error : Option Error)
    (session : Session Λ) :
    redacted hide (announce close number request error session) =
      announce mirror number request.redact error (session.redact hide) := by
  have same : request.redact.handler = request.handler := rfl
  unfold announce
  rw [same]
  cases request.handler with
  | listener queue =>
      simp only
      cases queue.offer none with
      | taken after =>
          exact congrArg (Prod.mk _) (redact_modify hide number _ session fun _ => rfl)
      | full | failed => rfl
  | callbacks onSentence onComplete =>
      cases onComplete with
      | none => rfl
      | some reaction =>
          cases reaction with
          | observe | raise | cancel => rfl
          | close =>
              simp only [redacted, mirrors]
              rfl

/-- Completing a request does not depend on words. -/
theorem redacted_finish
    (mirrors : ∀ session, (close session).redact hide = mirror (session.redact hide))
    (number : Nat)
    (error : Option Error)
    (session : Session Λ) :
    redacted hide (session.finish close number error) =
      (session.redact hide).finish mirror number error := by
  unfold Session.finish
  rw [request?_redact]
  cases session.request? number with
  | none => rfl
  | some request =>
      simp only [Option.map_some]
      have same : request.redact.isDone = request.isDone := rfl
      rw [same]
      split
      · rfl
      · rw [redacted_announce mirrors]
        exact congrArg (announce mirror number request.redact error)
          (redact_modify hide number _ session fun _ => rfl)

theorem redact_finishLogged
    (mirrors : ∀ session, (close session).redact hide = mirror (session.redact hide))
    (label : Text)
    (number : Nat)
    (error : Option Error)
    (session : Session Λ) :
    (session.finishLogged close label number error).redact hide =
      (session.redact hide).finishLogged mirror label number error := by
  unfold Session.finishLogged
  rw [← redacted_finish mirrors]
  cases session.finish close number error with
  | mk outcome after =>
      cases outcome with
      | ok => rfl
      | error => rfl

theorem redact_failEach
    (mirrors : ∀ session, (close session).redact hide = mirror (session.redact hide))
    (error : Error)
    (entries : List (Text × Nat))
    (session : Session Λ) :
    (session.failEach close error entries).redact hide =
      (session.redact hide).failEach mirror error entries := by
  induction entries generalizing session with
  | nil => rfl
  | cons entry rest inductionHypothesis =>
      unfold failEach
      rw [inductionHypothesis, redact_finishLogged mirrors]

/-- Completing all outstanding requests does not depend on words. -/
theorem redact_failAll
    (mirrors : ∀ session, (close session).redact hide = mirror (session.redact hide))
    (error : Error)
    (session : Session Λ) :
    (session.failAll close error).redact hide =
      (session.redact hide).failAll mirror error :=
  redact_failEach mirrors error session.dispatcher.pending _

end Completion

/-! ## Dispatch -/

section Dispatch

/-- A host is mirrored by another one that does the same to redacted sessions. -/
structure Mirrors
    (hide : Λ → Λ)
    (host mirror : Host Λ) : Prop where
  cancel : ∀ tag session, redacted hide (host.cancel tag session) =
    mirror.cancel tag (session.redact hide)
  close : ∀ session, (host.close session).redact hide = mirror.close (session.redact hide)
  giveUp : ∀ link, (host.giveUp? link).map hide = mirror.giveUp? (hide link)

variable {host mirror : Host Λ} {tag : Text} {sentence : Sentence}

theorem redacted_cancelRequest
    {cancel mirror : Text → Session Λ → Except Error Text × Session Λ}
    (mirrors : ∀ tag session, redacted hide (cancel tag session) =
      mirror tag (session.redact hide))
    (number : Nat)
    (session : Session Λ) :
    redacted hide (session.cancelRequest cancel number) =
      (session.redact hide).cancelRequest mirror number := by
  unfold Session.cancelRequest
  rw [request?_redact]
  cases session.request? number with
  | none => rfl
  | some request =>
      simp only [Option.map_some]
      have same : request.redact.isDone = request.isDone := rfl
      rw [same]
      split
      · rfl
      · have sameTag : request.redact.tag = request.tag := rfl
        have marked := redact_modify hide number
          (fun request => { request with cancelled := true }) session fun _ => rfl
        rw [sameTag, ← marked, ← mirrors]
        cases cancel request.tag _ with
        | mk outcome after =>
            cases outcome with
            | ok => rfl
            | error => rfl

/-- Handing a data sentence to a request does not depend on words. -/
theorem Mirrors.redacted_deliver
    (mirrors : Mirrors hide host mirror)
    (number : Nat)
    (sentence : Sentence)
    (session : Session Λ) :
    redacted hide (session.deliver host number sentence) =
      (session.redact hide).deliver mirror number sentence := by
  unfold Session.deliver
  rw [request?_redact]
  cases session.request? number with
  | none => rfl
  | some request =>
      simp only [Option.map_some]
      have same : request.redact.handler = request.handler := rfl
      rw [same]
      cases request.handler with
      | callbacks onSentence onComplete =>
          cases onSentence with
          | none => rfl
          | some reaction =>
              cases reaction with
              | observe | raise => rfl
              | close =>
                  simp only [redacted, mirrors.close]
                  rfl
              | cancel =>
                  simp only
                  have noted : (session.redact hide).note (.delivered request.redact.tag sentence) =
                      (session.note (.delivered request.tag sentence)).redact hide := rfl
                  rw [noted, ← redacted_cancelRequest mirrors.cancel]
                  cases Session.cancelRequest host.cancel number _ with
                  | mk outcome after =>
                      cases outcome with
                      | ok => rfl
                      | error => rfl
      | listener queue =>
          simp only
          cases queue.offer (some sentence) with
          | taken after =>
              exact congrArg (Prod.mk _) (redact_modify hide number _ session fun _ => rfl)
          | failed => rfl
          | full =>
              have gives := mirrors.giveUp session.link
              simp only
              have link_eq : (session.redact hide).link = hide session.link := rfl
              rw [link_eq, ← gives]
              cases host.giveUp? session.link with
              | none => rfl
              | some link => rfl

theorem Mirrors.redact_abandon
    (mirrors : Mirrors hide host mirror)
    (tag : Text)
    (number : Nat)
    (error : Error)
    (session : Session Λ) :
    (session.abandon host tag number error).redact hide =
      (session.redact hide).abandon mirror tag number error :=
  redact_finishLogged mirrors.close tag number (some error) _

theorem Mirrors.redact_retire
    (mirrors : Mirrors hide host mirror)
    (tag : Text)
    (number : Nat)
    (session : Session Λ) :
    (session.retire host tag number).redact hide =
      (session.redact hide).retire mirror tag number := by
  unfold Session.retire
  have removed : (session.redact hide).remove tag = (session.remove tag).redact hide := rfl
  simp only [removed, request?_redact]
  cases (session.remove tag).request? number with
  | none => rfl
  | some request => exact redact_finishLogged mirrors.close tag number request.finalError _

theorem Mirrors.redacted_feed
    (mirrors : Mirrors hide host mirror)
    (tag : Text)
    (number : Nat)
    (sentence : Sentence)
    (session : Session Λ) :
    redacted hide (session.feed host tag number sentence) =
      (session.redact hide).feed mirror tag number sentence := by
  have folds := redact_modify hide number
    (fun request => { request with reply := request.reply.process sentence }) session fun _ => rfl
  by_cases data : sentence.control = .data
  · rw [feed_of_data host data, feed_of_data mirror data, ← folds, ← mirrors.redacted_deliver]
    cases (session.modify number _).deliver host number sentence with
    | mk delivery after =>
        cases delivery with
        | stalled | accepted => rfl
        | failed error => exact congrArg (Prod.mk _) (mirrors.redact_abandon ..)
  · rw [feed_of_ne_data host data, feed_of_ne_data mirror data, ← folds, ← mirrors.redact_retire]
    cases sentence.isTerminal with
    | true => rfl
    | false => rfl

/-- Dispatching a sentence does not depend on words. -/
theorem Mirrors.redacted_dispatch
    (mirrors : Mirrors hide host mirror)
    (sentence : Sentence)
    (session : Session Λ) :
    redacted hide (session.dispatch host sentence) =
      (session.redact hide).dispatch mirror sentence := by
  unfold Session.dispatch
  cases sentence.tag with
  | none =>
      simp only
      cases sentence.control with
      | _ => rfl
  | some tag =>
      have same : (session.redact hide).lookup? tag = session.lookup? tag := rfl
      simp only [same]
      cases session.lookup? tag with
      | none => rfl
      | some number => exact mirrors.redacted_feed tag number sentence session

end Dispatch

end Session
end RouterApi
