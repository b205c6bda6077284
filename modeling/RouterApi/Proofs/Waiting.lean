import RouterApi.Proofs.Client.Incidents
import RouterApi.Proofs.Client.SynchronousRun

/-!
# Waiting for a request

When waiting for an asynchronous request gives its reply and when it raises an error. A request that
was cancelled is excused if the device reports that it was interrupted. The report that counts is
the first failure of the reply, whatever sentence ends the request, so a fatal or unknown sentence
can be excused as well.
-/

namespace RouterApi

/-- A sentence tells of an interruption if its category is that of interrupted commands. -/
def Sentence.TellsInterruption (sentence : Sentence) : Prop :=
  sentence.attribute? (literal "category") = some Request.interruptedCategory

/-- The first trap among sentences. -/
def firstTrap? (sentences : List Sentence) : Option Sentence :=
  sentences.find? (·.control = .trap)

/-- An answer counts as successful if it ends as done, and its first trap, if it has any, tells of
an interruption that was asked for. -/
def IsSuccess
    (cancelled : Bool)
    (earlier : List Sentence)
    (last : Sentence) : Prop :=
  last.control = .done ∧
    ∀ trap, firstTrap? earlier = some trap → cancelled = true ∧ trap.TellsInterruption

/-- An answer is excused wrongly if it was cancelled and does not end as done, but its first failure
tells of an interruption: a trap, or the fatal sentence itself. -/
def IsWronglyExcused
    (cancelled : Bool)
    (earlier : List Sentence)
    (last : Sentence) : Prop :=
  last.control ≠ .done ∧ cancelled = true ∧
    ((∃ trap, firstTrap? earlier = some trap ∧ trap.TellsInterruption) ∨
      firstTrap? earlier = none ∧ last.control = .fatal ∧ last.TellsInterruption)

variable {earlier : List Sentence} {last : Sentence}

/-! ## The first failure -/

/-- Before the terminal sentence, only traps report failures. -/
theorem findSome?_ofSentence?_eq
    (nonterminal : ∀ sentence ∈ earlier, sentence.isTerminal = false) :
    earlier.findSome? Failure.ofSentence? = (firstTrap? earlier).map Failure.trap := by
  induction earlier with
  | nil => rfl
  | cons sentence later inductionHypothesis =>
      obtain ⟨goesOn, goesOnLater⟩ := List.forall_mem_cons.mp nonterminal
      have rest := inductionHypothesis goesOnLater
      unfold firstTrap? at rest ⊢
      by_cases trap : sentence.control = .trap
      · simp [Failure.ofSentence?, trap]
      · have silent := (Failure.ofSentence?_eq_none_iff goesOn).mpr trap
        simp only [List.findSome?_cons, silent, rest]
        simp [trap]

/-- The failure of a complete reply is its first trap or, without one, what the terminal sentence
reports. -/
theorem failure_of_complete
    (nonterminal : ∀ sentence ∈ earlier, sentence.isTerminal = false)
    (last : Sentence) :
    ((earlier ++ [last]).foldl Reply.process {}).failure =
      ((firstTrap? earlier).map Failure.trap).or (Failure.ofSentence? last) := by
  rw [Reply.failure_foldl_process, List.findSome?_append, findSome?_ofSentence?_eq nonterminal]
  simp

namespace Request

variable {request : Request}

/-- A request ends without an error if nothing has failed, or if it has been cancelled and the
device told of an interruption first. -/
theorem finalError_eq_none_iff :
    request.finalError = none ↔
      ∀ failure, request.reply.failure = some failure →
        request.cancelled = true ∧ failure.isDeviceReport = true ∧
          failure.sentence.TellsInterruption := by
  unfold finalError Reply.error? Sentence.TellsInterruption
  cases reported : request.reply.failure with
  | none => simp
  | some failure => simp [Failure.category?, and_assoc]

/-- Waiting for a complete request raises its final error or gives its reply. -/
theorem wait_eq_ok_iff_finalError
    (complete : request.outcome = some request.finalError) :
    request.wait = .ok request.reply ↔ request.finalError = none := by
  unfold wait
  rw [complete]
  cases request.finalError with
  | none => simp
  | some error => simp

/-- Waiting for a complete request raises the error of its reply, if it raises any. -/
theorem wait_eq_ok_or_error
    (complete : request.outcome = some request.finalError) :
    request.wait = .ok request.reply ∨
      ∃ error, request.reply.error? = some error ∧ request.wait = .error error := by
  cases final : request.finalError with
  | none => exact .inl ((wait_eq_ok_iff_finalError complete).mpr final)
  | some error =>
      refine .inr ⟨error, ?_, by simp [wait, complete, final]⟩
      unfold finalError at final
      split at final
      · contradiction
      · split at final
        · contradiction
        · exact final

/-- When a request that was answered in full ends without an error. -/
theorem finalError_eq_none_iff_of_complete
    (nonterminal : ∀ sentence ∈ earlier, sentence.isTerminal = false)
    (terminal : last.isTerminal = true)
    (received : request.reply = (earlier ++ [last]).foldl Reply.process {}) :
    request.finalError = none ↔
      IsSuccess request.cancelled earlier last ∨
        IsWronglyExcused request.cancelled earlier last := by
  rw [finalError_eq_none_iff, received, failure_of_complete nonterminal]
  unfold IsSuccess IsWronglyExcused
  cases first : firstTrap? earlier with
  | some trap =>
      by_cases done : last.control = .done
      · simp [done, Failure.isDeviceReport, Failure.sentence]
      · simp [done, Failure.isDeviceReport, Failure.sentence]
  | none =>
      unfold Sentence.isTerminal at terminal
      cases control : last.control <;>
        simp [control, Failure.ofSentence?, Failure.isDeviceReport, Failure.sentence] at terminal ⊢

end Request

namespace Client

variable {client : Client} {number : Nat} {standing : Standing}

/-- An outstanding request has received no terminal sentence. -/
theorem isTerminal_of_isOutstanding
    (sound : client.IsSound)
    (known : client.standing? number = some standing)
    {incidents : List Incident}
    (outstanding : (undergoAll incidents client).IsOutstanding number) :
    ∀ sentence ∈ sentencesOf standing.tag incidents, sentence.isTerminal = false := by
  induction incidents generalizing client standing with
  | nil => exact fun _ member => absurd member List.not_mem_nil
  | cons incident later inductionHypothesis =>
      obtain ⟨request, found, -⟩ := Session.exists_request_of_standing? known
      have bound := (List.getElem?_eq_some_iff.mp found).1
      have before := isOutstanding_of_undergoAll sound bound outstanding
      have stillSound := isSound_undergo sound incident
      have stepped := standing?_undergo sound known before.incomplete
        (lookup?_of_isOutstanding sound known before) incident
      have next := isOutstanding_of_undergoAll stillSound (lt_length_undergo bound incident)
        outstanding
      intro sentence member
      unfold sentencesOf at member
      rw [List.filterMap_cons] at member
      cases received : incident.sentenceOf? standing.tag with
      | none =>
          rw [received] at member
          exact inductionHypothesis stillSound stepped outstanding sentence member
      | some own =>
          rw [received] at member
          rcases List.mem_cons.mp member with rfl | member
          · -- A terminal one would have completed the request.
            cases terminal : sentence.isTerminal with
            | false => rfl
            | true =>
                obtain ⟨rfl, tagged⟩ := Incident.sentenceOf?_eq_some_iff.mp received
                obtain ⟨ended, endedFound, -, outcome_eq⟩ :=
                  exists_ended sound known before tagged terminal
                have incomplete : (client.dispatch readerHost sentence).2.outcome? number =
                    some none := next.incomplete
                rw [Session.outcome?_of_request?_eq_some endedFound, outcome_eq] at incomplete
                cases incomplete
          · exact inductionHypothesis stillSound stepped outstanding sentence member

/-- When waiting for a request gives its reply. Anything may happen to the connection while the
request is outstanding; then its terminal sentence is dispatched. The request is complete and its
reply made of exactly the sentences dispatched to its tag. Waiting gives that reply if the answer
was a success, and also if it was wrongly excused; otherwise it raises the error of the reply. -/
theorem wait_eq_ok_iff_isSuccess
    {request : Request}
    {incidents : List Incident}
    {cancelled : Bool}
    (sound : client.IsSound)
    (known : client.request? number = some request)
    (unanswered : request.reply = {})
    (uncancelled : request.cancelled = false)
    (received : sentencesOf request.tag incidents = earlier)
    (marked : incidents.any (Incident.cancels number request.standing) = cancelled)
    (outstanding : (undergoAll incidents client).IsOutstanding number)
    (own : last.tag = some request.tag)
    (terminal : last.isTerminal = true) :
    ∃ ended,
      ((undergoAll incidents client).dispatch readerHost last).2.request? number = some ended ∧
      ended.isDone = true ∧
      ended.reply = (earlier ++ [last]).foldl Reply.process {} ∧
      (ended.wait = .ok ended.reply ↔
        IsSuccess cancelled earlier last ∨ IsWronglyExcused cancelled earlier last) ∧
      ((ended.wait = .ok ended.reply ↔ IsSuccess cancelled earlier last) ↔
        ¬ IsWronglyExcused cancelled earlier last) ∧
      (ended.wait = .ok ended.reply ∨
        ∃ error, ended.reply.error? = some error ∧ ended.wait = .error error) := by
  subst received marked
  have start : client.standing? number = some request.standing := by
    rw [Session.standing?, known, Option.map_some]
  have standing_eq := standing?_undergoAll sound start outstanding
  have nonterminal := isTerminal_of_isOutstanding sound start outstanding
  obtain ⟨ended, endedFound, same, complete⟩ :=
    exists_ended (isSound_undergoAll sound incidents) standing_eq outstanding own terminal
  have reply_eq : ended.reply =
      (sentencesOf request.tag incidents ++ [last]).foldl Reply.process {} := by
    rw [List.foldl_append]
    refine (congrArg Standing.reply same).trans ?_
    simp [Standing.fold, standingAfter, Request.standing, unanswered]
  have cancelled_eq : ended.cancelled =
      incidents.any (Incident.cancels number request.standing) := by
    refine (congrArg Standing.cancelled same).trans ?_
    simp [Standing.fold, standingAfter, Request.standing, uncancelled]
  have wait_iff := (Request.wait_eq_ok_iff_finalError complete).trans
    (Request.finalError_eq_none_iff_of_complete nonterminal terminal reply_eq)
  rw [cancelled_eq] at wait_iff
  have isDone : ended.isDone = true := by
    rw [Request.isDone, complete]
    rfl
  refine ⟨ended, endedFound, isDone, reply_eq, wait_iff, ?_, Request.wait_eq_ok_or_error complete⟩
  rw [wait_iff]
  constructor
  · intro agree excused
    exact excused.1 (agree.mp (.inr excused)).1
  · intro notExcused
    exact ⟨fun either => either.resolve_right notExcused, .inl⟩

/-- An asynchronous client with one outstanding command. -/
def oneCommand : Client where
  dispatcher :=
    { minted := 1
      requests :=
        [{ tag := literal "1", words := [.text (literal "/x")], handler := .callbacks none none }]
      pending := [(literal "1", 0)] }
  link :=
    { stream := {}
      secure := .bool false
      cleartext := .bool false
      queueSize := .int 0
      decoder := { encoding := .text (literal "utf-8") }
      isAsynchronous := true
      reader := .reading }

/-- The command of `oneCommand`. -/
def onlyRequest : Request where
  tag := literal "1"
  words := [.text (literal "/x")]
  handler := .callbacks none none

theorem isSound_oneCommand : oneCommand.IsSound where
  distinct := by decide
  owned {tag number} found := by
    cases Assoc.mem_of_get?_eq_some found with
    | head => exact ⟨onlyRequest, rfl, rfl⟩
    | tail _ member => contradiction

/-- The command is interrupted: it is cancelled, and the device tells of an interruption. -/
def interruption : List Incident :=
  [.cancellation 0, .sentence (.ofTexts [literal "!trap", literal "=category=2", literal ".tag=1"])]

/-- The sentence that ends the interrupted command. -/
def doneSentence : Sentence := .ofTexts [literal "!done", literal ".tag=1"]

theorem isOutstanding_interruption : (undergoAll interruption oneCommand).IsOutstanding 0 :=
  ⟨⟨literal "1", rfl⟩, rfl⟩

/-- The interrupted command ends without an error. -/
theorem wait_interrupted :
    ∃ ended,
      ((undergoAll interruption oneCommand).dispatch readerHost doneSentence).2.request? 0 =
        some ended ∧
      ended.wait = .ok ended.reply := by
  have known : oneCommand.request? 0 = some onlyRequest := rfl
  have received : sentencesOf (literal "1") interruption =
      [.ofTexts [literal "!trap", literal "=category=2", literal ".tag=1"]] := rfl
  have own : doneSentence.tag = some (literal "1") := rfl
  obtain ⟨ended, found, -, -, wait_iff, -⟩ :=
    wait_eq_ok_iff_isSuccess isSound_oneCommand known rfl rfl received rfl
      isOutstanding_interruption own rfl
  refine ⟨ended, found, wait_iff.mpr (.inl ⟨rfl, ?_⟩)⟩
  intro trap first
  cases first
  exact ⟨rfl, rfl⟩

/-- A fatal sentence with the category of interrupted commands. -/
def interruptedFatal : Sentence :=
  .ofTexts [literal "!fatal", literal "=category=2", literal ".tag=1"]

/-- If the command is cancelled, the fatal sentence ends it without an error as well. -/
theorem not_forall_wait_eq_ok_iff_isSuccess :
    ¬ ∀ (client : Client) (number : Nat) (request ended : Request) (incidents : List Incident)
        (last : Sentence),
      client.IsSound → client.request? number = some request →
      request.reply = {} → request.cancelled = false →
      (undergoAll incidents client).IsOutstanding number →
      last.tag = some request.tag → last.isTerminal = true →
      ((undergoAll incidents client).dispatch readerHost last).2.request? number = some ended →
      (ended.wait = .ok ended.reply ↔
        IsSuccess (incidents.any (Incident.cancels number request.standing))
          (sentencesOf request.tag incidents) last) := by
  intro succeeds
  have outstanding : (undergoAll [.cancellation 0] oneCommand).IsOutstanding 0 :=
    ⟨⟨literal "1", rfl⟩, rfl⟩
  have known : oneCommand.request? 0 = some onlyRequest := rfl
  have waited := (succeeds oneCommand 0 onlyRequest _ [.cancellation 0] interruptedFatal
    isSound_oneCommand known rfl rfl outstanding rfl rfl rfl).mp rfl
  have fatal : interruptedFatal.control = .fatal := rfl
  rw [IsSuccess, fatal] at waited
  cases waited.1

end Client
end RouterApi
