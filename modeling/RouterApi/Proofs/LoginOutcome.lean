import RouterApi.Proofs.Client.Replies
import RouterApi.Proofs.Closing
import RouterApi.Proofs.Hex
import RouterApi.Proofs.LoginSecrecy

/-!
# The outcome of a login

What a login comes to is decided by the replies to its commands. It succeeds if the first reply is
successful, and either brings no challenge, or brings one that can be decoded and answered with
success. What the device reports about a command becomes an error of authentication, and so does a
challenge that is malformed. Any other error is raised as it is.
-/

namespace RouterApi

/-- A reply raises its failure if it has one, and is returned if it is done. -/
theorem Reply.outcomeOf_result (reply : Reply) :
    Client.outcomeOf reply.result =
      match reply.failure with
      | some failure => .raised (.reported failure (some reply))
      | none => if reply.progress = .done then .returned reply else .raised .incompleteReply := by
  cases recorded : reply.failure with
  | some failure =>
      rw [(result_of_failure recorded).2]
      rfl
  | none =>
      rw [result_of_failure_eq_none recorded]
      by_cases done : reply.progress = .done
      · simp only [if_pos done]
        rfl
      · simp only [if_neg done]
        rfl

theorem Reply.outcomeOf_result_of_isSuccessful
    {reply : Reply}
    (successful : reply.IsSuccessful) :
    Client.outcomeOf reply.result = .returned reply := by
  rw [outcomeOf_result, successful.1]
  exact if_pos successful.2

namespace Client

variable {client : Client} {words : List Text} {reply : Reply}

/-- A command returns the successful reply that it gets. -/
theorem run_eq_returned_iff (sound : client.IsSound) :
    (client.run (words.map .text)).1 = .returned reply ↔
      GetsReply words client reply ∧ reply.IsSuccessful := by
  have comes := comesTo_run sound words
  constructor
  · intro returned
    rw [returned] at comes
    generalize outcome_eq : Outcome.returned reply = outcome at comes
    cases comes with
    | @replied other gets =>
        rw [Reply.outcomeOf_result] at outcome_eq
        cases failed : other.failure with
        | some failure => simp [failed] at outcome_eq
        | none =>
            by_cases done : other.progress = .done
            · simp only [failed, if_pos done] at outcome_eq
              cases outcome_eq
              exact ⟨gets, failed, done⟩
            · simp [failed, done] at outcome_eq
    | failed | waiting => cases outcome_eq
  · rintro ⟨gets, successful⟩
    rw [comes.of_getsReply gets, Reply.outcomeOf_result_of_isSuccessful successful]

/-- A command raises the failure of the reply that it gets. -/
theorem run_of_failure
    {failure : Failure}
    (sound : client.IsSound)
    (gets : GetsReply words client reply)
    (failed : reply.failure = some failure) :
    (client.run (words.map .text)).1 = .raised (.reported failure (some reply)) := by
  rw [(comesTo_run sound words).of_getsReply gets, Reply.outcomeOf_result, failed]

/-- A synchronous command only raises what the device has reported if its reply does. -/
theorem deviceFailure?_of_run
    {error : Error}
    (sound : client.IsSound)
    (raised : (client.run (words.map .text)).1 = .raised error)
    (unreported : ∀ reply failure, GetsReply words client reply → reply.failure = some failure →
      failure.isDeviceReport = false)
    (synchronous : client.link.isAsynchronous = false) :
    error.deviceFailure? = none := by
  have comes := comesTo_run sound words
  rw [raised] at comes
  generalize outcome_eq : Outcome.raised error = outcome at comes
  cases comes with
  | @replied reply gets =>
      rw [Reply.outcomeOf_result] at outcome_eq
      cases failed : reply.failure with
      | some failure =>
          simp only [failed] at outcome_eq
          cases outcome_eq
          simp [Error.deviceFailure?, unreported reply failure gets failed]
      | none =>
          simp only [failed] at outcome_eq
          split at outcome_eq
          · cases outcome_eq
          · cases outcome_eq
            rfl
  | failed _ notDevice =>
      cases outcome_eq
      exact notDevice synchronous
  | waiting => cases outcome_eq

end Client

namespace Login

open Client (GetsReply)

variable
  {username password : Value}
  {secret challenge : Bytes}
  {client : Client}
  {words : List Text}
  {reply : Reply}
  {digits : Text}
  {error : Error}

/-! ## The steps of a login -/

/-- The response to a challenge, given the bytes of the password. -/
def responseTo (secret challenge : Bytes) : Text :=
  literal "00" ++ Hex.encode (Md5.digest (0 :: secret ++ challenge))

/-- The client after the first command of a login. -/
def greeted
    (username password : Value)
    (client : Client) : Client :=
  (Client.run ((firstCommand username password client).map .text) (logStart username client)).2

/-- The client after the response to a challenge. -/
def responded
    (username password : Value)
    (secret challenge : Bytes)
    (client : Client) : Client :=
  (Client.run ((answerCommand username (responseTo secret challenge)).map .text)
    (answering username (greeted username password client))).2

/-- The first command of a login opens it if its reply is successful. -/
structure Opens
    (username password : Value)
    (client : Client)
    (reply : Reply) : Prop where
  gets : (logStart username client).GetsReply (firstCommand username password client) reply
  successful : reply.IsSuccessful

/-- The commands of a login, each with the client that it is run on. The second one answers the
challenge that the reply to the first one brings. -/
inductive Step
    (username password : Value)
    (secret : Bytes)
    (client : Client) : List Text → Client → Prop
  | first :
      Step username password secret client (firstCommand username password client)
        (logStart username client)
  | second {reply : Reply} {digits : Text} {challenge : Bytes}
      (opens : Opens username password client reply)
      (challenged : ret? reply = some digits)
      (denotes : Hex.Denotes digits challenge) :
      Step username password secret client
        (answerCommand username (responseTo secret challenge))
        (answering username (greeted username password client))

theorem isSound_logStart
    (sound : client.IsSound)
    (username : Value) :
    (logStart username client).IsSound :=
  ⟨sound.distinct, sound.owned⟩

theorem isSound_answering
    (sound : client.IsSound)
    (username password : Value) :
    (answering username (greeted username password client)).IsSound :=
  have run := Client.isSound_run (isSound_logStart sound username)
    ((firstCommand username password client).map .text)
  ⟨run.distinct, run.owned⟩

theorem Step.isSound
    {before : Client}
    (step : Step username password secret client words before)
    (sound : client.IsSound) :
    before.IsSound := by
  cases step with
  | first => exact isSound_logStart sound username
  | second => exact isSound_answering sound username password

theorem challengeResponse_eq
    (encodable : secretBytes password = .ok secret)
    (challenge : Bytes) :
    challengeResponse challenge password = .ok (responseTo secret challenge) := by
  rw [challengeResponse, encodable]
  rfl

theorem decodeChallenge_text (digits : Text) :
    decodeChallenge (.text digits) = (Hex.decode digits).mapError .invalidChallenge := rfl

theorem decodeChallenge_of_denotes (denotes : Hex.Denotes digits challenge) :
    decodeChallenge (.text digits) = .ok challenge := by
  rw [decodeChallenge_text, Hex.decode_eq_ok_iff.mpr denotes]
  rfl

/-- Anything but pairs of digits is an invalid challenge. -/
theorem decodeChallenge_of_not_isDigitPairs (malformed : ¬ Hex.IsDigitPairs digits) :
    ∃ fault, decodeChallenge (.text digits) = .error (.invalidChallenge fault) := by
  rw [decodeChallenge_text]
  cases decoded : Hex.decode digits with
  | ok bytes => exact absurd (Hex.decode_eq_ok_iff.mp decoded).isDigitPairs malformed
  | error fault => exact ⟨fault, rfl⟩

theorem rejection_of_deviceFailure?_eq_none (unreported : error.deviceFailure? = none) :
    rejection error = error := by
  cases error with
  | reported failure reply =>
      cases report : failure.isDeviceReport with
      | true => simp [Error.deviceFailure?, report] at unreported
      | false => simp [rejection, report]
  | _ => rfl

/-- What the device has reported becomes an error of authentication with that cause. -/
theorem rejection_of_deviceFailure?_eq_some
    {failure : Failure}
    (reported : error.deviceFailure? = some failure) :
    (rejection error).kind = .authentication ∧ (rejection error).cause? = some error := by
  cases error with
  | reported failure reply =>
      cases report : failure.isDeviceReport with
      | true => simp [rejection, report, Error.kind, Error.cause?]
      | false => simp [Error.deviceFailure?, report] at reported
  | _ => cases reported

theorem Opens.run_eq
    (opens : Opens username password client reply)
    (sound : client.IsSound) :
    Client.run ((firstCommand username password client).map .text) (logStart username client) =
      (.returned reply, greeted username password client) :=
  Prod.ext ((Client.run_eq_returned_iff (isSound_logStart sound username)).mpr
    ⟨opens.gets, opens.successful⟩) rfl

theorem Opens.login_eq
    (opens : Opens username password client reply)
    (sound : client.IsSound)
    (challenged : ret? reply = some digits) :
    client.login username password =
      answer username password digits (greeted username password client) := by
  rw [Login.login_eq, opens.run_eq sound]
  simp only [challenged]

/-- A challenge is answered with the response to the bytes that it denotes. -/
theorem Opens.login_eq_answerWith
    (opens : Opens username password client reply)
    (sound : client.IsSound)
    (encodable : secretBytes password = .ok secret)
    (challenged : ret? reply = some digits)
    (denotes : Hex.Denotes digits challenge) :
    client.login username password =
      answerWith username (greeted username password client)
        (.ok (responseTo secret challenge)) := by
  rw [opens.login_eq sound challenged, answer_eq (decodeChallenge_of_denotes denotes),
    challengeResponse_eq encodable]

/-- A command that fails is the end of a login. -/
theorem Step.login_of_raised
    {before : Client}
    (step : Step username password secret client words before)
    (sound : client.IsSound)
    (encodable : secretBytes password = .ok secret)
    (raised : (Client.run (words.map .text) before).1 = .raised error) :
    (client.login username password).1 = .raised (rejection error) := by
  cases ran : Client.run (words.map .text) before with
  | mk outcome after =>
      rw [ran] at raised
      subst raised
      cases step with
      | first => rw [login_eq, ran]
      | second opens challenged denotes =>
          rw [opens.login_eq_answerWith sound encodable challenged denotes, answerWith_ok, ran]

/-! ## The outcome -/

/-- What a login comes to is decided by the replies to its commands. -/
structure IsDecided
    (username password : Value)
    (secret : Bytes)
    (client : Client) : Prop where
  /-- It succeeds if its first reply is successful and brings no challenge, or brings a challenge in
  pairs of digits, and the reply to the response is successful as well. -/
  returns_iff :
    (client.login username password).1 = .returned () ↔
      ∃ reply, Opens username password client reply ∧
        (ret? reply = none ∨
          ∃ digits, ret? reply = some digits ∧ Hex.IsDigitPairs digits ∧
            ∃ challenge last, Hex.Denotes digits challenge ∧
              GetsReply (answerCommand username (responseTo secret challenge))
                (answering username (greeted username password client)) last ∧
              last.IsSuccessful)
  /-- The response is computed from the bytes that the challenge denotes, and its command is the
  last one. -/
  answered : ∀ {reply digits challenge}, Opens username password client reply →
    ret? reply = some digits → Hex.Denotes digits challenge →
    (client.login username password).2 = responded username password secret challenge client ∨
      (client.login username password).2 =
        logEnd username (responded username password secret challenge client)
  /-- A trap or a fatal sentence that is the first failure of a complete reply is a rejection. -/
  rejected : ∀ {words before reply failure},
    Step username password secret client words before → GetsReply words before reply →
    reply.failure = some failure → failure.isDeviceReport = true →
    ∃ error, (client.login username password).1 = .raised error ∧
      error.kind = .authentication ∧ error.cause? = some (.reported failure (some reply))
  /-- A challenge that is not made of digit pairs is not answered. -/
  invalid : ∀ {reply digits}, Opens username password client reply → ret? reply = some digits →
    ¬ Hex.IsDigitPairs digits →
    ∃ error, client.login username password =
        (.raised error, greeted username password client) ∧
      error.kind = .authentication
  /-- Any other failure of a command is raised as it is. On an asynchronous connection, what the
  device has reported about the connection before the reply is complete is no such failure. -/
  propagated : ∀ {words before error},
    Step username password secret client words before →
    (Client.run (words.map .text) before).1 = .raised error →
    (∀ reply failure, GetsReply words before reply → reply.failure = some failure →
      failure.isDeviceReport = false) →
    before.link.isAsynchronous = false ∨ error.deviceFailure? = none →
    (client.login username password).1 = .raised error
  /-- Whatever the device has reported is a rejection, whether the reply is complete or not. -/
  ended : ∀ {words before failure error},
    Step username password secret client words before →
    (Client.run (words.map .text) before).1 = .raised error →
    error.deviceFailure? = some failure →
    ∃ rejection, (client.login username password).1 = .raised rejection ∧
      rejection.kind = .authentication ∧ rejection.cause? = some error

/-- The first command of a login that succeeds opens it. -/
theorem exists_opens
    (sound : client.IsSound)
    (returned : (client.login username password).1 = .returned ()) :
    ∃ reply, Opens username password client reply := by
  rw [login_eq] at returned
  cases ran : Client.run ((firstCommand username password client).map .text)
      (logStart username client) with
  | mk outcome between =>
      rw [ran] at returned
      cases outcome with
      | raised | waiting => cases returned
      | returned reply =>
          obtain ⟨gets, successful⟩ :=
            (Client.run_eq_returned_iff (isSound_logStart sound username)).mp
              (congrArg Prod.fst ran)
          exact ⟨reply, gets, successful⟩

theorem returned_login_iff
    (sound : client.IsSound)
    (encodable : secretBytes password = .ok secret) :
    (client.login username password).1 = .returned () ↔
      ∃ reply, Opens username password client reply ∧
        (ret? reply = none ∨
          ∃ digits, ret? reply = some digits ∧ Hex.IsDigitPairs digits ∧
            ∃ challenge last, Hex.Denotes digits challenge ∧
              GetsReply (answerCommand username (responseTo secret challenge))
                (answering username (greeted username password client)) last ∧
              last.IsSuccessful) := by
  have soundAnswering := isSound_answering sound username password
  constructor
  · intro returned
    obtain ⟨reply, opens⟩ := exists_opens sound returned
    refine ⟨reply, opens, ?_⟩
    cases challenged : ret? reply with
    | none => exact .inl rfl
    | some digits =>
        by_cases pairs : Hex.IsDigitPairs digits
        · obtain ⟨challenge, denotes⟩ := pairs.exists_denotes
          rw [opens.login_eq_answerWith sound encodable challenged denotes, answerWith_ok]
            at returned
          cases ran : Client.run ((answerCommand username (responseTo secret challenge)).map .text)
              (answering username (greeted username password client)) with
          | mk outcome after =>
              rw [ran] at returned
              cases outcome with
              | raised | waiting => cases returned
              | returned last =>
                  obtain ⟨getsLast, lastSuccessful⟩ :=
                    (Client.run_eq_returned_iff soundAnswering).mp (congrArg Prod.fst ran)
                  exact .inr ⟨digits, rfl, pairs, challenge, last, denotes, getsLast,
                    lastSuccessful⟩
        · obtain ⟨fault, decoded⟩ := decodeChallenge_of_not_isDigitPairs pairs
          rw [opens.login_eq sound challenged, answer_of_undecodable decoded] at returned
          cases returned
  · rintro ⟨reply, opens, unchallenged | ⟨digits, challenged, -, challenge, last, denotes, getsLast,
      lastSuccessful⟩⟩
    · rw [login_eq, opens.run_eq sound]
      simp only [unchallenged]
    · have ran : Client.run ((answerCommand username (responseTo secret challenge)).map .text)
          (answering username (greeted username password client)) =
            (.returned last, responded username password secret challenge client) :=
        Prod.ext ((Client.run_eq_returned_iff soundAnswering).mpr ⟨getsLast, lastSuccessful⟩) rfl
      rw [opens.login_eq_answerWith sound encodable challenged denotes, answerWith_ok, ran]

theorem isDecided_of_isSound
    (sound : client.IsSound)
    (encodable : secretBytes password = .ok secret)
    (username : Value) :
    IsDecided username password secret client where
  returns_iff := returned_login_iff sound encodable
  answered {reply digits challenge} opens challenged denotes := by
    rw [opens.login_eq_answerWith sound encodable challenged denotes, answerWith_ok]
    unfold responded
    cases Client.run ((answerCommand username (responseTo secret challenge)).map .text)
        (answering username (greeted username password client)) with
    | mk outcome after =>
        cases outcome with
        | raised | waiting => exact .inl rfl
        | returned => exact .inr rfl
  rejected {words before reply failure} step gets failed report := by
    have raised := Client.run_of_failure (step.isSound sound) gets failed
    have reported : (Error.reported failure (some reply)).deviceFailure? = some failure :=
      if_pos report
    exact ⟨_, step.login_of_raised sound encodable raised,
      rejection_of_deviceFailure?_eq_some reported⟩
  invalid opens challenged malformed := by
    obtain ⟨fault, decoded⟩ := decodeChallenge_of_not_isDigitPairs malformed
    refine ⟨.invalidChallenge fault, ?_, rfl⟩
    rw [opens.login_eq sound challenged, answer_of_undecodable decoded]
  propagated {words before error} step raised unreported mode := by
    have notDevice : error.deviceFailure? = none := by
      rcases mode with synchronous | notDevice
      · exact Client.deviceFailure?_of_run (step.isSound sound) raised unreported synchronous
      · exact notDevice
    rw [step.login_of_raised sound encodable raised,
      rejection_of_deviceFailure?_eq_none notDevice]
  ended step raised reported :=
    ⟨_, step.login_of_raised sound encodable raised, rejection_of_deviceFailure?_eq_some reported⟩

/-- In whatever state a client is, what a login comes to is decided by the replies to its commands.
-/
theorem isDecided_login
    {origin : Client}
    {actions : List Client.Action}
    (new : origin.IsNew)
    (lived : origin.live actions = client)
    (encodable : secretBytes password = .ok secret)
    (username : Value) :
    IsDecided username password secret client := by
  have sound : origin.IsSound :=
    Session.isSound_of_pending_eq_nil (by rw [new.dispatcher_eq])
  rw [← lived]
  exact isDecided_of_isSound (Client.isSound_live sound actions) encodable username

/-- The device sends a challenge of one byte. -/
theorem isDecided_challenging :
    challenging.IsNew ∧ challenging.live [] = challenging ∧
      secretBytes (.text (literal "pw")) = .ok [0x70, 0x77] ∧
      IsDecided (.text (literal "admin")) (.text (literal "pw")) [0x70, 0x77] challenging ∧
      ∃ reply, Opens (.text (literal "admin")) (.text (literal "pw")) challenging reply ∧
        ret? reply = some (literal "0a") ∧ Hex.Denotes (literal "0a") [0x0A] := by
  have new : challenging.IsNew := ⟨rfl, rfl, rfl, rfl, rfl, rfl⟩
  have lived : challenging.live [] = challenging := rfl
  have encodable : secretBytes (.text (literal "pw")) = .ok [0x70, 0x77] := rfl
  have gets : (logStart (.text (literal "admin")) challenging).GetsReply greeting
      ([.ofTexts [literal "!done", literal "=ret=0a"]].foldl Reply.process {}) :=
    .read rfl rfl rfl rfl (.last (Stream.yields_iff.mpr rfl) rfl)
  exact ⟨new, lived, encodable, isDecided_login new lived encodable _, _, ⟨gets, rfl, rfl⟩, rfl,
    rfl⟩

/-- A client whose device ends the connection instead of answering. -/
def turnedAway : Client where
  link :=
    { stream := { script := [.chunks [.data [6, 0x21, 0x66, 0x61, 0x74, 0x61, 0x6C, 0]]] }
      secure := .bool false
      cleartext := .bool false
      queueSize := .int 0
      decoder := { encoding := .text (literal "utf-8") } }

/-- On an asynchronous connection, what the device reports about the connection is a rejection,
though no reply is complete. -/
theorem not_forall_propagated :
    ¬ ∀ (origin client before : Client) (actions : List Client.Action) (username password : Value)
        (secret : Bytes) (words : List Text) (error : Error),
      origin.IsNew → origin.live actions = client → secretBytes password = .ok secret →
      Step username password secret client words before →
      (Client.run (words.map .text) before).1 = .raised error →
      (∀ reply failure, GetsReply words before reply → reply.failure = some failure →
        failure.isDeviceReport = false) →
      (client.login username password).1 = .raised error := by
  intro propagates
  have new : turnedAway.IsNew := ⟨rfl, rfl, rfl, rfl, rfl, rfl⟩
  have sound : (logStart (.text (literal "u")) (turnedAway.live [.switch])).IsSound :=
    isSound_logStart (Client.isSound_live (Session.isSound_of_pending_eq_nil rfl) [.switch]) _
  have ended : (Client.run (greeting.map .text)
      (logStart (.text (literal "u")) (turnedAway.live [.switch]))).1 =
        .raised (.reported (.fatal (.ofTexts [literal "!fatal"])) none) := rfl
  have propagated := propagates turnedAway (turnedAway.live [.switch]) _ [.switch]
    (.text (literal "u")) (.text (literal "p")) [0x70] greeting _ new rfl rfl .first ended ?_
  · have rejected : ((turnedAway.live [.switch]).login (.text (literal "u"))
        (.text (literal "p"))).1 =
          .raised (.rejected (.fatal (.ofTexts [literal "!fatal"])) none) := rfl
    cases rejected.symm.trans propagated
  · intro reply failure gets failed
    cases ended.symm.trans (Client.run_of_failure sound gets failed)

end Login
end RouterApi
