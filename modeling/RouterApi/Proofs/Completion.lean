import RouterApi.Proofs.Client.Runs
import RouterApi.Proofs.Session.ExactlyOnce

/-!
# Completion of requests

However the operations of a session follow each other, and whatever the callbacks do meanwhile, each
request is completed at most once. A callback that closes the connection completes all outstanding
requests while another operation is still in progress.
-/

namespace RouterApi
namespace Session

variable {Λ : Type} {session : Session Λ}

/-- In every session that a run reaches, the table holds incomplete requests under their own tags,
and each request has been completed at most once, after all other calls, and exactly if it is
complete and has a callback for it. Its outcome never changes from then on. Completing all
outstanding requests gives the session a failure. Once it has one, the table stays empty, every
registration is refused with the first failure, and no callback is called any more. -/
theorem completesOnce_of_reaches
    {link : Λ}
    (reached : Reaches { link } session) :
    (∃ ledger, CompletesOnce ledger session ∧
      ∀ later, Reaches session later →
        (∃ more, CompletesOnce (ledger ++ more) later) ∧ session.Keeps later) ∧
    (∀ close error, (∀ other : Session Λ, Reaches other (close other)) →
      (session.failAll close error).dispatcher.failure =
        some (session.dispatcher.failure.getD error)) ∧
    ∀ failure, session.dispatcher.failure = some failure → ∀ later, Reaches session later →
      later.dispatcher.pending = [] ∧
      (∀ number,
        later.dispatcher.register number = .error (.closed (.refused failure.message))) ∧
      later.callbackCalls = session.callbackCalls := by
  refine ⟨?_, ?_, ?_⟩
  · obtain ⟨ledger, books⟩ := reached.exists_ledger
    refine ⟨ledger, books, ?_⟩
    intro later reaches
    exact ⟨reaches.continues ledger books, reaches.keeps⟩
  · intro close error closes
    exact (hasFailed_failAll closes error session).1
  · intro failure failure_eq later reaches
    have failed := reached.hasFailed failure_eq
    have stillFailed := (persists_hasFailed failure).reaches reaches failed
    exact ⟨stillFailed.2, stillFailed.register_eq, reaches.callbackCalls_eq failed⟩

/-- Two outstanding commands. The callback for the data of the first closes the connection, and so
does that for the completion of the second. -/
def closingCommands : Client where
  dispatcher :=
    { requests :=
        [{ tag := literal "1", words := [.text (literal "/x")],
           handler := .callbacks (some .close) (some .observe) },
         { tag := literal "2", words := [.text (literal "/y")],
           handler := .callbacks none (some .close) }]
      pending := [(literal "1", 0), (literal "2", 1)] }
  link :=
    { stream := {}
      secure := .bool false
      cleartext := .bool false
      queueSize := .int 0
      decoder := { encoding := .text (literal "utf-8") }
      isAsynchronous := true
      reader := .reading }

/-- Data for the first command. -/
def firstData : Sentence :=
  Sentence.ofTexts [literal "!re", literal ".tag=1"]

theorem reaches_closingCommands :
    Reaches { link := closingCommands.link } closingCommands := by
  refine .trans (.make
    { tag := literal "1", words := [.text (literal "/x")],
      handler := .callbacks (some .close) (some .observe) } rfl) ?_
  refine .trans (.make
    { tag := literal "2", words := [.text (literal "/y")],
      handler := .callbacks none (some .close) } rfl) ?_
  exact .trans (.register 0 rfl rfl rfl) (.register 1 rfl rfl rfl)

/-- The client after the data has been dispatched. -/
def interrupted : Client :=
  (closingCommands.dispatch Client.readerHost firstData).2

/-- Both commands are completed, and the client fails, while the data is being delivered. -/
theorem completesOnce_interrupted :
    interrupted.callbackCalls =
      [.delivered (literal "1") firstData,
       .completed (literal "1") (some (.closed .byCaller)),
       .completed (literal "2") (some (.closed .byCaller))] ∧
    interrupted.dispatcher.failure = some (.closed .byCaller) ∧
    Reaches { link := closingCommands.link } interrupted ∧
    (∃ ledger, CompletesOnce ledger interrupted ∧
      ∀ later, Reaches interrupted later →
        (∃ more, CompletesOnce (ledger ++ more) later) ∧ interrupted.Keeps later) ∧
    (∀ close error, (∀ other : Client, Reaches other (close other)) →
      (interrupted.failAll close error).dispatcher.failure =
        some (interrupted.dispatcher.failure.getD error)) ∧
    ∀ failure, interrupted.dispatcher.failure = some failure → ∀ later, Reaches interrupted later →
      later.dispatcher.pending = [] ∧
      (∀ number,
        later.dispatcher.register number = .error (.closed (.refused failure.message))) ∧
      later.callbackCalls = interrupted.callbackCalls := by
  have reached : Reaches { link := closingCommands.link } interrupted :=
    reaches_closingCommands.trans
      (.dispatch Client.reaches_cancel Client.reaches_shutDown firstData)
  exact ⟨by decide, by decide, reached, completesOnce_of_reaches reached⟩

end Session
end RouterApi
