import RouterApi.Client.Commands
import RouterApi.Md5

/-!
# Logging in

Two ways of logging in exclude each other. Over a secure connection, or when the caller allows it,
the user name and the password are sent with the first command. Otherwise the device is asked for a
challenge, and answered with a digest of the password and the challenge; the password itself is not
sent.
-/

namespace RouterApi
namespace Login

/-- The bytes of a password, which may be given as a text or as bytes. -/
def secretBytes : Value → Except Error Bytes
  | .text content =>
      match Charset.utf8.encodeStrict? content with
      | some bytes => .ok bytes
      | none => .error .unencodable
  | .bytes content => .ok content
  | _ => .error (.unsupported .type)

/-- The answer to a challenge: `00` and the digest of a zero byte, the password and the challenge.
-/
def challengeResponse (challenge : Bytes) (password : Value) : Except Error Text :=
  (secretBytes password).map fun secret =>
    literal "00" ++ Hex.encode (Md5.digest (0 :: secret ++ challenge))

/-- The bytes of a challenge as the device sends it: pairs of hexadecimal digits, as a text or as
bytes. -/
def decodeChallenge (digits : Value) : Except Error Bytes :=
  match digits with
  | .text content => (Hex.decode content).mapError .invalidChallenge
  | .bytes content =>
      (Hex.decodeDigits (content.map CodePoint.ofByte)).mapError .invalidChallenge
  | _ => .error (.unsupported .type)

/-- A failure that the device reports is a rejection; any other error is kept. -/
def rejection (error : Error) : Error :=
  match error with
  | .reported failure reply =>
      if failure.isDeviceReport then .rejected failure reply else error
  | _ => error

/-- Run one command of the exchange. -/
def exchange (words : List Text) (client : Client) : Outcome Reply × Client :=
  match Client.run (words.map .text) client with
  | (.raised error, client) => (.raised (rejection error), client)
  | other => other

/-- The path of every command of the exchange. -/
def path : Text := literal "/login"

/-- Whether the password itself may be sent. -/
def maySendPassword (client : Client) : Bool :=
  client.link.secure.truth || client.link.cleartext.truth

/-- The words of the first command: with the credentials, when they may be sent. -/
def firstCommand (username password : Value) (client : Client) : List Text :=
  if maySendPassword client then
    [path, Word.ofAttribute (literal "name") username,
      Word.ofAttribute (literal "password") password]
  else [path]

/-- The words of the answer to a challenge. -/
def answerCommand (username : Value) (response : Text) : List Text :=
  [path, Word.ofAttribute (literal "name") username,
    Word.ofAttribute (literal "response") (.text response)]

/-- Note the beginning of the exchange in the log. -/
def logStart (username : Value) (client : Client) : Client :=
  let message :=
    if maySendPassword client then literal "/login with credentials as " ++ username.toText
    else literal "/login requesting challenge"
  Client.logAbout .debug .login message client

/-- Note the end of the exchange in the log. -/
def logEnd (username : Value) (client : Client) : Client :=
  Client.logAbout .info .login (literal "logged in as " ++ username.toText) client

/-- Answer a challenge. -/
def answer (username password : Value) (digits : Text) (client : Client) :
    Outcome Unit × Client :=
  match decodeChallenge (.text digits) with
  | .error error => (.raised error, client)
  | .ok challenge =>
      match challengeResponse challenge password with
      | .error error => (.raised error, client)
      | .ok response =>
          let client :=
            Client.logAbout .debug .login
              (literal "/login answering challenge as " ++ username.toText) client
          match exchange (answerCommand username response) client with
          | (.raised error, client) => (.raised error, client)
          | (.waiting, client) => (.waiting, client)
          | (.returned _, client) => (.returned (), logEnd username client)

end Login

/-- Log in. A device that sends a challenge is answered; one that sends none has accepted the
credentials. -/
def Client.login (username password : Value) (client : Client) : Outcome Unit × Client :=
  match Login.exchange (Login.firstCommand username password client)
      (Login.logStart username client) with
  | (.raised error, client) => (.raised error, client)
  | (.waiting, client) => (.waiting, client)
  | (.returned reply, client) =>
      match reply.done.bind (Sentence.attribute? (literal "ret")) with
      | none => (.returned (), Login.logEnd username client)
      | some digits => Login.answer username password digits client

end RouterApi
