import RouterApi.Login
import RouterApi.Proofs.Client.Transport

/-!
# The login exchange

A login succeeds if the device accepts the credentials at once, or if it sends a challenge and
accepts the answer. Over a plain client it does not wait, and the connection is open once it has
succeeded.
-/

namespace RouterApi

/-- A reply is successful if it completed without a failure. -/
def Reply.IsSuccessful (reply : Reply) : Prop :=
  reply.failure = none ∧ reply.progress = .done

theorem Reply.isSuccessful_of_result
    {reply result : Reply}
    (succeeded : reply.result = .ok result) :
    result.IsSuccessful := by
  unfold Reply.result Reply.error? at succeeded
  cases failure : reply.failure with
  | some reported => simp [failure] at succeeded
  | none =>
      simp only [failure, Option.map_none] at succeeded
      split at succeeded
      case isTrue progress =>
        cases succeeded
        exact ⟨failure, progress⟩
      case isFalse => cases succeeded

namespace Client

variable {client after : Client} {reply : Reply}

theorem isSuccessful_of_readReply
    (read : client.readReply = (.ok reply, after)) :
    reply.IsSuccessful := by
  unfold readReply at read
  split at read
  · cases read
  · split at read
    · exact Reply.isSuccessful_of_result (congrArg Prod.fst read)
    · exact Reply.isSuccessful_of_result (congrArg Prod.fst read)

/-- A synchronous command only returns a reply that completed without a failure. -/
theorem isSuccessful_of_run
    {words : List Word}
    (synchronous : client.link.isAsynchronous = false)
    (ran : client.run words = (.returned reply, after)) :
    reply.IsSuccessful := by
  unfold run runSync at ran
  simp only [synchronous] at ran
  cases written : write close words client with
  | mk outcome between =>
      rw [written] at ran
      cases outcome with
      | error error => cases ran
      | ok =>
          cases read : readReply between with
          | mk outcome final =>
              simp only [read] at ran
              cases outcome with
              | error error => cases ran
              | ok other =>
                  cases ran
                  exact isSuccessful_of_readReply read

end Client

namespace Login

variable {closes : Nat} {client : Client}

/-- The client that answers a challenge, which is noted in its log. -/
def answering
    (username : Value)
    (client : Client) : Client :=
  Client.logAbout .debug .login
    (literal "/login answering challenge as " ++ username.toText) client

/-! ## The two commands -/

/-- The challenge as the device writes it, if the terminal sentence of a reply brings one. -/
def ret? (reply : Reply) : Option Text :=
  reply.done.bind (Sentence.attribute? (literal "ret"))

/-- What a login makes of its first command. -/
theorem login_eq
    (username password : Value)
    (client : Client) :
    client.login username password =
      match Client.run ((firstCommand username password client).map .text)
        (logStart username client) with
      | (.raised error, between) => (.raised (rejection error), between)
      | (.waiting, between) => (.waiting, between)
      | (.returned reply, between) =>
          match ret? reply with
          | none => (.returned (), logEnd username between)
          | some digits => answer username password digits between := by
  unfold Client.login exchange
  cases Client.run ((firstCommand username password client).map .text)
      (logStart username client) with
  | mk outcome between =>
      cases outcome with
      | raised | waiting | returned => rfl

/-- What becomes of a challenge once it has been digested. -/
def answerWith
    (username : Value)
    (client : Client)
    (digested : Except Error Text) : Outcome Unit × Client :=
  match digested with
  | .error error => (.raised error, client)
  | .ok response =>
      match exchange (answerCommand username response) (answering username client) with
      | (.raised error, client) => (.raised error, client)
      | (.waiting, client) => (.waiting, client)
      | (.returned _, client) => (.returned (), logEnd username client)

theorem answer_of_undecodable
    {digits : Text}
    {error : Error}
    (undecodable : decodeChallenge (.text digits) = .error error)
    (username password : Value)
    (client : Client) :
    answer username password digits client = (.raised error, client) := by
  unfold answer
  rw [undecodable]

theorem answer_eq
    {digits : Text}
    {challenge : Bytes}
    (decoded : decodeChallenge (.text digits) = .ok challenge)
    (username password : Value)
    (client : Client) :
    answer username password digits client =
      answerWith username client (challengeResponse challenge password) := by
  unfold answer
  rw [decoded]
  rfl

/-- What a login makes of its second command. -/
theorem answerWith_ok
    (username : Value)
    (client : Client)
    (response : Text) :
    answerWith username client (.ok response) =
      match Client.run ((answerCommand username response).map .text)
        (answering username client) with
      | (.raised error, last) => (.raised (rejection error), last)
      | (.waiting, last) => (.waiting, last)
      | (.returned _, last) => (.returned (), logEnd username last) := by
  unfold answerWith exchange
  simp only
  cases Client.run ((answerCommand username response).map .text) (answering username client) with
  | mk outcome last =>
      cases outcome with
      | raised | waiting | returned => rfl

/-! ## Success -/

/-- A successful login, and the client after it. -/
inductive Succeeds
    (username password : Value)
    (client : Client) : Client → Prop
  | accepted {reply after}
      (ran : Client.run ((firstCommand username password client).map .text)
        (logStart username client) = (.returned reply, after))
      (successful : reply.IsSuccessful)
      (unchallenged : reply.done.bind (Sentence.attribute? (literal "ret")) = none) :
      Succeeds username password client (logEnd username after)
  | answered {reply between digits challenge response last after}
      (ran : Client.run ((firstCommand username password client).map .text)
        (logStart username client) = (.returned reply, between))
      (challenged : reply.done.bind (Sentence.attribute? (literal "ret")) = some digits)
      (decoded : decodeChallenge (.text digits) = .ok challenge)
      (digested : challengeResponse challenge password = .ok response)
      (answered : Client.run ((answerCommand username response).map .text)
        (answering username between) = (.returned last, after))
      (successful : last.IsSuccessful) :
      Succeeds username password client (logEnd username after)

/-- What a login over a plain client comes to: it fails, or it succeeds. Either way the client stays
plain. -/
inductive Ends
    (closes : Nat)
    (username password : Value)
    (client : Client) : Outcome Unit × Client → Prop
  | raised {error after}
      (plain : after.IsPlain closes) :
      Ends closes username password client (.raised error, after)
  | returned {after}
      (plain : after.IsPlain closes)
      (isOpen : after.link.isClosed = false)
      (succeeds : Succeeds username password client after) :
      Ends closes username password client (.returned (), after)

/-- One command over a plain client. -/
theorem ends_run
    (plain : client.IsPlain closes)
    (words : List Text) :
    (∃ error after, Client.run (words.map .text) client = (.raised error, after) ∧
        after.IsPlain closes) ∨
      ∃ reply after, Client.run (words.map .text) client = (.returned reply, after) ∧
        reply.IsSuccessful ∧ after.IsPlain closes ∧ after.link.isClosed = false := by
  have concludes := plain.run (words.map .text)
  cases ran : Client.run (words.map .text) client with
  | mk outcome after =>
      rw [ran] at concludes
      cases outcome with
      | waiting => exact absurd rfl concludes.settled
      | raised error => exact .inl ⟨_, after, rfl, concludes.plain⟩
      | returned reply =>
          exact .inr ⟨reply, after, rfl, Client.isSuccessful_of_run plain.synchronous ran,
            concludes.plain, concludes.isOpen rfl⟩

/-- A login over a plain client ends with a failure or with a success. -/
theorem ends_login
    (plain : client.IsPlain closes)
    (username password : Value) :
    Ends closes username password client (client.login username password) := by
  have started : (logStart username client).IsPlain closes := plain.log ..
  rw [login_eq]
  rcases ends_run started (firstCommand username password client) with
    ⟨error, between, failed, plainBetween⟩ |
    ⟨reply, between, ran, successful, plainBetween, stillOpen⟩
  · rw [failed]
    exact .raised plainBetween
  · rw [ran]
    simp only
    cases challenged : ret? reply with
    | none =>
        exact .returned (plainBetween.log ..) stillOpen (.accepted ran successful challenged)
    | some digits =>
        simp only
        cases decoded : decodeChallenge (.text digits) with
        | error error =>
            rw [answer_of_undecodable decoded]
            exact .raised plainBetween
        | ok challenge =>
            rw [answer_eq decoded]
            cases digested : challengeResponse challenge password with
            | error error => exact .raised plainBetween
            | ok response =>
                have noted : (answering username between).IsPlain closes := plainBetween.log ..
                rw [answerWith_ok]
                rcases ends_run noted (answerCommand username response) with
                  ⟨error, after, failed, plainAfter⟩ |
                  ⟨last, after, answered, lastSuccessful, plainAfter, isOpen⟩
                · rw [failed]
                  exact .raised plainAfter
                · rw [answered]
                  exact .returned (plainAfter.log ..) isOpen
                    (.answered ran challenged decoded digested answered lastSuccessful)

/-! ## The commands of a login -/

/-- The response to a reply, if it brings a challenge that can be answered. -/
def response?
    (password : Value)
    (reply : Reply) : Option Text :=
  (reply.done.bind (Sentence.attribute? (literal "ret"))).bind fun digits =>
    (decodeChallenge (.text digits)).toOption.bind fun challenge =>
      (challengeResponse challenge password).toOption

/-- What a login comes to, in either mode: it runs one command, or two if the device sends a
challenge that can be answered. The end may be noted in the log. -/
inductive Runs
    (username password : Value)
    (client : Client) : Client → Prop
  | first {outcome between after}
      (ran : Client.run ((firstCommand username password client).map .text)
        (logStart username client) = (outcome, between))
      (noted : after = between ∨ after = logEnd username between)
      (unanswered : ∀ reply, outcome = .returned reply → response? password reply = none) :
      Runs username password client after
  | second {reply between digits challenge response outcome last after}
      (ran : Client.run ((firstCommand username password client).map .text)
        (logStart username client) = (.returned reply, between))
      (challenged : reply.done.bind (Sentence.attribute? (literal "ret")) = some digits)
      (decoded : decodeChallenge (.text digits) = .ok challenge)
      (digested : challengeResponse challenge password = .ok response)
      (answered : Client.run ((answerCommand username response).map .text)
        (answering username between) = (outcome, last))
      (noted : after = last ∨ after = logEnd username last) :
      Runs username password client after

theorem runs_login
    (username password : Value)
    (client : Client) :
    Runs username password client (client.login username password).2 := by
  rw [login_eq]
  cases ran : Client.run ((firstCommand username password client).map .text)
      (logStart username client) with
  | mk outcome between =>
      cases outcome with
      | raised | waiting => exact .first ran (.inl rfl) nofun
      | returned reply =>
          have unanswered (none : response? password reply = none) :
              ∀ other, Outcome.returned reply = .returned other →
                response? password other = .none := by
            rintro _ ⟨⟩
            exact none
          simp only
          cases challenged : ret? reply with
          | none =>
              unfold ret? at challenged
              exact .first ran (.inr rfl) (unanswered (by simp [response?, challenged]))
          | some digits =>
              unfold ret? at challenged
              simp only
              cases decoded : decodeChallenge (.text digits) with
              | error error =>
                  rw [answer_of_undecodable decoded]
                  exact .first ran (.inl rfl)
                    (unanswered (by simp [response?, challenged, decoded, Except.toOption]))
              | ok challenge =>
                  rw [answer_eq decoded]
                  cases digested : challengeResponse challenge password with
                  | error error =>
                      exact .first ran (.inl rfl)
                        (unanswered
                          (by simp [response?, challenged, decoded, digested, Except.toOption]))
                  | ok response =>
                      rw [answerWith_ok]
                      cases answered : Client.run ((answerCommand username response).map .text)
                          (answering username between) with
                      | mk last after =>
                          cases last with
                          | raised | waiting =>
                              exact .second ran challenged decoded digested answered (.inl rfl)
                          | returned =>
                              exact .second ran challenged decoded digested answered (.inr rfl)

end Login
end RouterApi
