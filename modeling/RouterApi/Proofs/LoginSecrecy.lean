import RouterApi.Proofs.Client.Answering
import RouterApi.Proofs.Client.Offers

/-!
# The password in a login

A login over a synchronous client writes at most two sentences. The password is only in the first
one if it may be sent. Otherwise all that depends on it is the answer to a challenge, and only
through the digest.
-/

namespace RouterApi
namespace Client

/-- A client has written sentences if their encodings are the data that it has offered to its stream
since. -/
def HasWritten
    (sentences : List (List Text))
    (before after : Client) : Prop :=
  ∃ data, after.link.stream.offered = before.link.stream.offered ++ data ∧
    List.Forall₂
      (fun words bytes =>
        Wire.encodeSentence before.link.decoder.encoding (words.map .text) = .ok bytes)
      sentences data

variable {client between after : Client} {words : List Text}

/-- A client writes nothing if it offers nothing. -/
theorem hasWritten_nil (same : after.link.stream.offered = client.link.stream.offered) :
    HasWritten [] client after :=
  ⟨[], by rw [same, List.append_nil], .nil⟩

theorem HasWritten.trans
    {first second : List (List Text)}
    (wroteFirst : HasWritten first client between)
    (wroteSecond : HasWritten second between after)
    (encoding_eq : between.link.decoder.encoding = client.link.decoder.encoding) :
    HasWritten (first ++ second) client after := by
  obtain ⟨firstData, firstOffered, firstEncodes⟩ := wroteFirst
  obtain ⟨secondData, secondOffered, secondEncodes⟩ := wroteSecond
  rw [encoding_eq] at secondEncodes
  refine ⟨firstData ++ secondData, ?_, List.rel_append firstEncodes secondEncodes⟩
  rw [secondOffered, firstOffered, List.append_assoc]

theorem encodeSentence_of_payload?
    {encoding : Value}
    {data : Bytes}
    (payload : data ∈ Wire.payload? encoding (words.map .text)) :
    Wire.encodeSentence encoding (words.map .text) = .ok data :=
  (Wire.payload?_eq_some_iff.mp payload).1

/-- A synchronous run writes its command, or nothing. -/
theorem exists_hasWritten_run
    (synchronous : client.link.isAsynchronous = false)
    (words : List Text) :
    ∃ sentences, sentences <+: [words] ∧
      HasWritten sentences client (client.run (words.map .text)).2 := by
  have offered := offered_run synchronous (words.map .text)
  cases isClosed : client.link.isClosed with
  | true =>
      rw [offer_of_isClosed isClosed, List.append_nil] at offered
      exact ⟨[], List.nil_prefix, hasWritten_nil offered⟩
  | false =>
      rw [offer_of_isOpen isClosed] at offered
      cases payload : Wire.payload? client.link.decoder.encoding (words.map .text) with
      | none =>
          rw [payload, Option.toList_none, List.append_nil] at offered
          exact ⟨[], List.nil_prefix, hasWritten_nil offered⟩
      | some data =>
          rw [payload] at offered
          exact ⟨[words], List.prefix_refl _, [data], offered,
            .cons (encodeSentence_of_payload? payload) .nil⟩

/-- A synchronous run that returns a reply has written its command. -/
theorem hasWritten_of_returned
    {reply : Reply}
    (synchronous : client.link.isAsynchronous = false)
    (ran : client.run (words.map .text) = (.returned reply, after)) :
    HasWritten [words] client after := by
  have offered := offered_run synchronous (words.map .text)
  rw [ran] at offered
  unfold run runSync at ran
  rw [if_neg (by simp [synchronous])] at ran
  have written := written_write close (words.map .text) client
  generalize write close (words.map .text) client = result at written ran
  cases written with
  | unencoded | refused | unshown | failed => cases ran
  | @sent data shown stream encoded isOpen masked =>
      have payload := Wire.payload?_eq_some_iff.mpr ⟨encoded, shown, masked⟩
      rw [offer_of_isOpen isOpen, payload] at offered
      exact ⟨[data], offered, .cons encoded .nil⟩

end Client

namespace Login

open Client (HasWritten)

/-- The words with which a login asks for a challenge. -/
def greeting : List Text :=
  [literal "/login"]

/-- The words with which a login sends the credentials. -/
def credentials (username password : Text) : List Text :=
  [literal "/login", literal "=name=" ++ username, literal "=password=" ++ password]

/-- The words with which a login answers a challenge. -/
def responding (username response : Text) : List Text :=
  [literal "/login", literal "=name=" ++ username, literal "=response=" ++ response]

/-- The words of the first command: with the credentials over a secure connection, or if sending
them in clear text is allowed. -/
def opening
    (username password : Text)
    (client : Client) : List Text :=
  if client.link.secure.truth = true ∨ client.link.cleartext.truth = true then
    credentials username password
  else greeting

/-- The device answers the first command of a login with success, and with a challenge. -/
def Challenges
    (words : List Text)
    (username : Text)
    (client : Client)
    (challenge : Bytes) : Prop :=
  ∃ reply between digits,
    Client.run (words.map .text) (logStart (.text username) client) = (.returned reply, between) ∧
    reply.IsSuccessful ∧
    reply.done.bind (Sentence.attribute? (literal "ret")) = some digits ∧
    decodeChallenge (.text digits) = .ok challenge

variable {client : Client} {username : Text}

theorem firstCommand_eq
    (username password : Text)
    (client : Client) :
    firstCommand (.text username) (.text password) client = opening username password client := by
  unfold firstCommand opening maySendPassword
  simp only [Bool.or_eq_true]
  rfl

theorem firstCommand_of_not_maySendPassword
    (withheld : maySendPassword client = false)
    (username password : Value) :
    firstCommand username password client = greeting := by
  simp [firstCommand, withheld, greeting, path]

/-! ## The sentences of a login -/

/-- A login writes its first command, or the first command and the answer to a challenge, or less.
-/
theorem exists_hasWritten_login
    (synchronous : client.link.isAsynchronous = false)
    (readerless : client.link.reader = .absent)
    (username password : Text) :
    ∃ sentences,
      HasWritten sentences client (client.login (.text username) (.text password)).2 ∧
      (sentences <+: [opening username password client] ∨
        ∃ challenge response,
          Challenges (opening username password client) username client challenge ∧
          challengeResponse challenge (.text password) = .ok response ∧
          sentences <+: [opening username password client, responding username response]) := by
  have started : (logStart (.text username) client).link.isAsynchronous = false := synchronous
  have startedEncoding : (logStart (.text username) client).link.HasEncoding
      client.link.decoder.encoding := Client.hasEncoding_of_readerless readerless
  have runs := runs_login (.text username) (.text password) client
  generalize (client.login (.text username) (.text password)).2 = after at runs ⊢
  cases runs with
  | first ran noted =>
      rw [firstCommand_eq] at ran
      obtain ⟨sentences, part, wrote⟩ :=
        Client.exists_hasWritten_run started (opening username password client)
      rw [ran] at wrote
      refine ⟨sentences, ?_, .inl part⟩
      rcases noted with rfl | rfl
      · exact wrote
      · exact wrote
  | @second reply between digits challenge response outcome last _ ran challenged decoded digested
      answered noted =>
      rw [firstCommand_eq] at ran
      have successful := Client.isSuccessful_of_run started ran
      have opened := Client.hasWritten_of_returned started ran
      have stillSynchronous := Client.isAsynchronous_run started
        ((opening username password client).map .text)
      have sameEncoding := Client.hasEncoding_run ((opening username password client).map .text)
        startedEncoding
      rw [ran] at stillSynchronous sameEncoding
      have answeringMode : (answering (.text username) between).link.isAsynchronous = false :=
        stillSynchronous
      obtain ⟨sentences, part, wrote⟩ := Client.exists_hasWritten_run answeringMode
        (answerCommand (.text username) response)
      rw [answered] at wrote
      have wroteBoth := opened.trans wrote sameEncoding.encoding_eq
      refine ⟨[opening username password client] ++ sentences, ?_, .inr ⟨challenge, response,
        ⟨reply, between, digits, ran, successful, challenged, decoded⟩, digested,
        (List.prefix_append_right_inj _).mpr part⟩⟩
      rcases noted with rfl | rfl
      · exact wroteBoth
      · exact wroteBoth

/-! ## Two passwords -/

/-- A challenge is answered by the digest of the password. -/
theorem login_of_challenges
    {challenge : Bytes}
    (withheld : maySendPassword client = false)
    (challenged : Challenges greeting username client challenge) :
    ∃ between, ∀ password,
      client.login (.text username) password =
        answerWith (.text username) between (challengeResponse challenge password) := by
  obtain ⟨reply, between, digits, ran, -, found, decoded⟩ := challenged
  refine ⟨between, fun password => ?_⟩
  have found : ret? reply = some digits := found
  rw [login_eq, firstCommand_of_not_maySendPassword withheld, ran]
  simp only [found]
  exact answer_eq decoded _ _ _

/-- Without a challenge, the password is not used. -/
theorem login_of_not_challenges
    (synchronous : client.link.isAsynchronous = false)
    (withheld : maySendPassword client = false)
    (unchallenged : ∀ challenge, ¬ Challenges greeting username client challenge)
    (first second : Value) :
    client.login (.text username) first = client.login (.text username) second := by
  have started : (logStart (.text username) client).link.isAsynchronous = false := synchronous
  rw [login_eq, login_eq, firstCommand_of_not_maySendPassword withheld,
    firstCommand_of_not_maySendPassword withheld]
  cases ran : Client.run (greeting.map .text) (logStart (.text username) client) with
  | mk outcome between =>
      cases outcome with
      | raised | waiting => rfl
      | returned reply =>
          simp only
          cases found : ret? reply with
          | none => rfl
          | some digits =>
              cases decoded : decodeChallenge (.text digits) with
              | error error =>
                  simp only
                  rw [answer_of_undecodable decoded, answer_of_undecodable decoded]
              | ok challenge =>
                  exact absurd
                    ⟨reply, _, digits, ran, Client.isSuccessful_of_run started ran, found, decoded⟩
                    (unchallenged challenge)

/-- Whatever the password is, the same is offered first, and one more sentence at most. -/
theorem exists_offered_login
    (username : Text)
    (synchronous : client.link.isAsynchronous = false)
    (withheld : maySendPassword client = false) :
    ∃ opened : List Bytes, opened.length ≤ 1 ∧ ∀ password, ∃ rest : List Bytes, rest.length ≤ 1 ∧
      (client.login (.text username) password).2.link.stream.offered =
        client.link.stream.offered ++ opened ++ rest := by
  have started : (logStart (.text username) client).link.isAsynchronous = false := synchronous
  have offered := Client.offered_run started (greeting.map .text)
  refine ⟨_, Client.length_offer_le (greeting.map .text) (logStart (.text username) client), ?_⟩
  intro password
  have runs := runs_login (.text username) password client
  generalize (client.login (.text username) password).2 = after at runs ⊢
  cases runs with
  | first ran noted =>
      rw [firstCommand_of_not_maySendPassword withheld] at ran
      rw [ran] at offered
      refine ⟨[], Nat.zero_le 1, ?_⟩
      rw [List.append_nil]
      rcases noted with rfl | rfl
      · exact offered
      · exact offered
  | @second reply between digits challenge response outcome last _ ran _ _ _ answered noted =>
      rw [firstCommand_of_not_maySendPassword withheld] at ran
      have stillSynchronous := Client.isAsynchronous_run started (greeting.map .text)
      rw [ran] at offered stillSynchronous
      have answeringMode : (answering (.text username) between).link.isAsynchronous = false :=
        stillSynchronous
      have offeredLater :=
        Client.offered_run answeringMode ((answerCommand (.text username) response).map .text)
      rw [answered] at offeredLater
      refine ⟨_, Client.length_offer_le ((answerCommand (.text username) response).map .text)
        (answering (.text username) between), ?_⟩
      have both : last.link.stream.offered = _ := offeredLater.trans (congrArg (· ++ _) offered)
      rcases noted with rfl | rfl
      · exact both
      · exact both

/-! ## The result -/

/-- How a login protects the password. It writes its first command, which has the password only if
it may be sent, and then at most the answer to a challenge that came with a successful reply. If the
password may not be sent, two logins with different passwords offer the same data up to that answer.
Without a challenge they are the same altogether, and with one they only differ in what depends on
the response. -/
structure ProtectsPassword (client : Client) : Prop where
  sentences : ∀ username password : Text, ∃ sentences,
    HasWritten sentences client (client.login (.text username) (.text password)).2 ∧
    (sentences <+: [opening username password client] ∨
      ∃ challenge response,
        Challenges (opening username password client) username client challenge ∧
        challengeResponse challenge (.text password) = .ok response ∧
        sentences <+: [opening username password client, responding username response])
  begins : client.link.secure.truth = false → client.link.cleartext.truth = false →
    ∀ username : Text, ∃ opened : List Bytes, opened.length ≤ 1 ∧
      ∀ password : Text, ∃ rest : List Bytes, rest.length ≤ 1 ∧
        (client.login (.text username) (.text password)).2.link.stream.offered =
          client.link.stream.offered ++ opened ++ rest
  unchallenged : client.link.secure.truth = false → client.link.cleartext.truth = false →
    ∀ username : Text, (∀ challenge, ¬ Challenges greeting username client challenge) →
      ∀ first second : Text,
        client.login (.text username) (.text first) = client.login (.text username) (.text second)
  challenged : client.link.secure.truth = false → client.link.cleartext.truth = false →
    ∀ username challenge, Challenges greeting username client challenge →
      ∃ result : Except Error Text → Outcome Unit × Client, ∀ password : Text,
        client.login (.text username) (.text password) =
          result (challengeResponse challenge (.text password))

/-- A login over a synchronous client protects the password. -/
theorem protectsPassword_of_synchronous
    (synchronous : client.link.isAsynchronous = false)
    (readerless : client.link.reader = .absent) :
    ProtectsPassword client := by
  have withheld (insecure : client.link.secure.truth = false)
      (forbidden : client.link.cleartext.truth = false) : maySendPassword client = false := by
    rw [maySendPassword, insecure, forbidden]
    rfl
  refine
    { sentences := exists_hasWritten_login synchronous readerless
      begins := ?_
      unchallenged := ?_
      challenged := ?_ }
  · intro insecure forbidden username
    obtain ⟨opened, short, offers⟩ :=
      exists_offered_login username synchronous (withheld insecure forbidden)
    exact ⟨opened, short, fun password => offers (.text password)⟩
  · intro insecure forbidden username none first second
    exact login_of_not_challenges synchronous (withheld insecure forbidden) none _ _
  · intro insecure forbidden username challenge challenged
    obtain ⟨between, logs⟩ := login_of_challenges (withheld insecure forbidden) challenged
    exact ⟨answerWith (.text username) between, fun password => logs (.text password)⟩

/-- A client whose device sends a challenge, and then accepts the answer. -/
def challenging : Client where
  link :=
    { stream :=
        { script :=
            [.chunks [.data [5, 0x21, 0x64, 0x6F, 0x6E, 0x65,
                7, 0x3D, 0x72, 0x65, 0x74, 0x3D, 0x30, 0x61, 0]],
              .chunks [.data [5, 0x21, 0x64, 0x6F, 0x6E, 0x65, 0]]] }
      secure := .bool false
      cleartext := .bool false
      queueSize := .int 0
      decoder := { encoding := .text (literal "utf-8") } }

/-- The challenge is one byte, and it is all that the password is needed for. -/
theorem protectsPassword_challenging :
    challenging.link.isAsynchronous = false ∧ challenging.link.reader = .absent ∧
      ProtectsPassword challenging ∧ Challenges greeting (literal "admin") challenging [0x0A] ∧
      ∃ result : Except Error Text → Outcome Unit × Client, ∀ password : Text,
        challenging.login (.text (literal "admin")) (.text password) =
          result (challengeResponse [0x0A] (.text password)) := by
  have protects : ProtectsPassword challenging := protectsPassword_of_synchronous rfl rfl
  have challenged : Challenges greeting (literal "admin") challenging [0x0A] :=
    ⟨_, _, _, rfl, ⟨rfl, rfl⟩, rfl, rfl⟩
  exact ⟨rfl, rfl, protects, challenged, protects.challenged rfl rfl _ _ challenged⟩

end Login
end RouterApi
