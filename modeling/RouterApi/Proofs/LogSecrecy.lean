import RouterApi.Proofs.Client.LookAlike
import RouterApi.Proofs.Login

/-!
# Secrets in the log

The log does not tell passwords. The values of secret attributes are not shown, in commands, in
requests and in sentences; and a login with one password leaves the same log as with another one,
as long as both can be sent.
-/

namespace RouterApi
namespace Login

open Client (Alike AlikeSteps LookAlike alikeSteps_iff)

/-- All words that a login sends can be encoded: those of its first command, and those of its answer
to a challenge. -/
structure IsEncodable
    (username password : Value)
    (client : Client) : Prop where
  first : ∃ data, Wire.encodeSentence client.link.decoder.encoding
    ((firstCommand username password client).map .text) = .ok data
  answer : ∀ {reply between digits challenge},
    Client.run ((firstCommand username password client).map .text) (logStart username client) =
      (.returned reply, between) →
    reply.done.bind (Sentence.attribute? (literal "ret")) = some digits →
    decodeChallenge (.text digits) = .ok challenge →
    ∃ response data, challengeResponse challenge password = .ok response ∧
      Wire.encodeSentence between.link.decoder.encoding
        ((answerCommand username response).map .text) = .ok data

variable {client : Client} {username password other : Value}

/-- Commands look alike if their words are like each other and can be encoded. -/
theorem lookAlike_of_isLike
    {encoding : Value}
    {words others : List Text}
    (alike : List.Forall₂ Word.IsLikeText words others)
    (encodes : ∃ data, Wire.encodeSentence encoding (words.map .text) = .ok data)
    (otherEncodes : ∃ data, Wire.encodeSentence encoding (others.map .text) = .ok data) :
    LookAlike encoding (words.map .text) (others.map .text) where
  shown := by
    refine Word.maskedAll_eq_of_isLike ?_
    rw [List.forall₂_map_left_iff, List.forall₂_map_right_iff]
    exact alike
  encodable := by
    obtain ⟨data, encoded⟩ := encodes
    obtain ⟨otherData, otherEncoded⟩ := otherEncodes
    simp only [Client.encodable, encoded, otherEncoded, Except.map]

/-- The first commands of two logins only differ in the password. -/
theorem isLike_firstCommand
    (username password other : Value)
    (client : Client) :
    List.Forall₂ Word.IsLikeText (firstCommand username password client)
      (firstCommand username other client) := by
  unfold firstCommand
  split
  · exact .cons (.same _) (.cons (.same _) (.cons (.secret (by decide) password other) .nil))
  · exact .cons (.same _) .nil

/-- Two answers only differ in the response. -/
theorem isLike_answerCommand
    (username : Value)
    (response other : Text) :
    List.Forall₂ Word.IsLikeText (answerCommand username response)
      (answerCommand username other) :=
  .cons (.same _) (.cons (.same _)
    (.cons (.secret (by decide) (.text response) (.text other)) .nil))

/-- Exchanging commands that look alike are alike steps. -/
theorem alike_exchange
    {first second : Client}
    {words others : List Text}
    (alike : Alike first second)
    (lookAlike : LookAlike first.link.decoder.encoding (words.map .text) (others.map .text)) :
    AlikeSteps (exchange words first) (exchange others second) := by
  obtain ⟨result, after, otherAfter, step_eq, other_eq, alikeAfter⟩ :=
    (alike.run lookAlike).exists_eq
  unfold exchange
  rw [step_eq, other_eq]
  cases result with
  | raised | waiting | returned => exact alikeSteps_iff.mpr ⟨rfl, alikeAfter⟩

theorem run_of_exchange
    {words : List Text}
    {reply : Reply}
    {after : Client}
    (exchanged : exchange words client = (.returned reply, after)) :
    Client.run (words.map .text) client = (.returned reply, after) := by
  unfold exchange at exchanged
  cases ran : Client.run (words.map .text) client with
  | mk outcome between =>
      rw [ran] at exchanged
      cases outcome with
      | raised | waiting => cases exchanged
      | returned =>
          cases exchanged
          rfl

/-- Logging in with one password or another are alike steps. -/
theorem alike_login
    (encodable : IsEncodable username password client)
    (otherEncodable : IsEncodable username other client) :
    AlikeSteps (client.login username password) (client.login username other) := by
  have exchanged := alike_exchange (rfl : Alike (logStart username client) _)
    (lookAlike_of_isLike (isLike_firstCommand username password other client) encodable.first
      otherEncodable.first)
  obtain ⟨result, after, otherAfter, step_eq, other_eq, alikeAfter⟩ := exchanged.exists_eq
  unfold Client.login
  rw [step_eq, other_eq]
  cases result with
  | raised | waiting => exact alikeSteps_iff.mpr ⟨rfl, alikeAfter⟩
  | returned reply =>
      simp only
      cases challenged : reply.done.bind (Sentence.attribute? (literal "ret")) with
      | none => exact alikeSteps_iff.mpr ⟨rfl, alikeAfter.logAbout ..⟩
      | some digits =>
          simp only
          unfold answer
          cases decoded : decodeChallenge (.text digits) with
          | error error => exact alikeSteps_iff.mpr ⟨rfl, alikeAfter⟩
          | ok challenge =>
              obtain ⟨response, data, digested, encoded⟩ :=
                encodable.answer (run_of_exchange step_eq) challenged decoded
              obtain ⟨otherResponse, otherData, otherDigested, otherEncoded⟩ :=
                otherEncodable.answer (run_of_exchange other_eq) challenged decoded
              rw [← alikeAfter.decoder_eq] at otherEncoded
              have answering := alikeAfter.logAbout .debug .login
                (literal "/login answering challenge as " ++ username.toText)
              have answered := alike_exchange answering
                (lookAlike_of_isLike (isLike_answerCommand username response otherResponse)
                  ⟨data, encoded⟩ ⟨otherData, otherEncoded⟩)
              obtain ⟨result, last, otherLast, step_eq, other_eq, alikeLast⟩ := answered.exists_eq
              simp only [digested, otherDigested, step_eq, other_eq]
              cases result with
              | raised | waiting => exact alikeSteps_iff.mpr ⟨rfl, alikeLast⟩
              | returned => exact alikeSteps_iff.mpr ⟨rfl, alikeLast.logAbout ..⟩

/-- How secrets are kept out of the log. Words that only differ in secret values are shown alike, in
commands and requests, and so are sentences; masking keeps the number of words, and each word that
sets no secret attribute. Two logins with different passwords leave the same log. -/
structure HidesSecrets : Prop where
  masked : ∀ {first second : List Word}, List.Forall₂ Word.IsLike first second →
    Word.maskedAll first = Word.maskedAll second ∧
      ∀ request : Request,
        { request with words := first }.inspect = { request with words := second }.inspect
  kept : ∀ {words : List Word} {shown : List Text}, Word.maskedAll words = .ok shown →
    shown.length = words.length ∧
      ∀ (index : Nat) word, words[index]? = some (.text word) → ¬ Word.SetsSecret word →
        shown[index]? = some word
  summary : ∀ word {first second : List Text}, List.Forall₂ Word.IsLikeText first second →
    (Sentence.opening word first).summary = (Sentence.opening word second).summary
  login : ∀ client username password other, IsEncodable username password client →
    IsEncodable username other client →
    (client.login username password).2.journal = (client.login username other).2.journal

/-- Secrets are kept out of the log. -/
theorem hidesSecrets : HidesSecrets where
  masked alike :=
    ⟨Word.maskedAll_eq_of_isLike alike, Request.inspect_eq_of_isLike alike⟩
  kept := Word.getElem?_of_maskedAll
  summary word _ _ alike := Sentence.summary_eq_of_isLike word alike
  login _ _ _ _ encodable otherEncodable := by
    obtain ⟨_, _, _, step_eq, other_eq, alike⟩ := (alike_login encodable otherEncodable).exists_eq
    rw [step_eq, other_eq]
    exact alike.journal_eq

/-- A client that may send passwords, whose device sends a challenge all the same. -/
def permissive : Client where
  link :=
    { stream :=
        { script :=
            [.chunks [.data [5, 0x21, 0x64, 0x6F, 0x6E, 0x65,
                7, 0x3D, 0x72, 0x65, 0x74, 0x3D, 0x30, 0x61, 0]],
              .chunks [.data [5, 0x21, 0x64, 0x6F, 0x6E, 0x65, 0]]] }
      secure := .bool false
      cleartext := .bool true
      queueSize := .int 0
      decoder := { encoding := .text (literal "utf-8") } }

/-- The reply with the challenge. -/
def challengeOfPermissive : Reply where
  done := some (.opening (.text (literal "!done")) [literal "=ret=0a"])
  progress := .done

/-- What there is to check for one password. -/
theorem isEncodable_permissive
    {password : Text}
    {data : Bytes}
    {between : Client}
    (encoded : Wire.encodeSentence (.text (literal "utf-8"))
      ((firstCommand (.text (literal "admin")) (.text password) permissive).map .text) = .ok data)
    (ran : Client.run
      ((firstCommand (.text (literal "admin")) (.text password) permissive).map .text)
      (logStart (.text (literal "admin")) permissive) = (.returned challengeOfPermissive, between))
    (encoding_eq : between.link.decoder.encoding = .text (literal "utf-8"))
    (answers : ((challengeResponse [0x0A] (.text password)).bind fun response =>
      Wire.encodeSentence (.text (literal "utf-8"))
        ((answerCommand (.text (literal "admin")) response).map .text)).isOk = true) :
    IsEncodable (.text (literal "admin")) (.text password) permissive where
  first := ⟨data, encoded⟩
  answer returned challenged decoded := by
    rw [ran] at returned
    cases returned
    cases challenged
    obtain rfl : [0x0A] = _ := Except.ok.inj decoded
    rw [encoding_eq]
    cases digested : challengeResponse [0x0A] (.text password) with
    | error error => simp [digested, Except.bind, Except.isOk, Except.toBool] at answers
    | ok response =>
        rw [digested, Except.bind] at answers
        cases answered : Wire.encodeSentence (.text (literal "utf-8"))
            ((answerCommand (.text (literal "admin")) response).map .text) with
        | error error => simp [answered, Except.isOk, Except.toBool] at answers
        | ok later => exact ⟨response, later, rfl, answered⟩

/-- Both passwords can be sent, and neither of them shows. -/
theorem hidesSecrets_permissive :
    IsEncodable (.text (literal "admin")) (.text (literal "first")) permissive ∧
      IsEncodable (.text (literal "admin")) (.text (literal "second")) permissive ∧
      (permissive.login (.text (literal "admin")) (.text (literal "first"))).2.journal =
        (permissive.login (.text (literal "admin")) (.text (literal "second"))).2.journal := by
  have first : IsEncodable (.text (literal "admin")) (.text (literal "first")) permissive :=
    isEncodable_permissive rfl rfl rfl (by decide +kernel)
  have second : IsEncodable (.text (literal "admin")) (.text (literal "second")) permissive :=
    isEncodable_permissive rfl rfl rfl (by decide +kernel)
  exact ⟨first, second, hidesSecrets.login _ _ _ _ first second⟩

end Login
end RouterApi
