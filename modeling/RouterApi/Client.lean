import RouterApi.Stream
import RouterApi.Settings
import RouterApi.Wire.Encoder
import RouterApi.Session.Dispatch

/-!
# Clients

A client is a session over a stream. It starts out synchronous: a command is written, and its reply
is read before the next one. It can be switched to asynchronous operation once and for all; then
every command carries a tag, and a background reader hands the sentences that arrive to their
requests.

The background reader is part of the state: after each step of the caller it takes everything that
has arrived, until it is idle, held up by the full queue of a listener, or ended.
-/

namespace RouterApi

/-- The background reader of a connection. It is absent while the connection is synchronous. A
reader that is held up keeps the sentence it is about to queue for a listener, the decoded sentences
after it, and what its decoder ended with. -/
inductive Reader
  | absent
  | reading
  | stalled (number : Nat) (sentence : Sentence) (later : List (List Text))
      (ending : Wire.Decoder.Ending)
  | ended (error : Error)

/-- A connection over a stream. -/
structure Connection where
  stream : Stream
  secure : Value
  cleartext : Value
  queueSize : Value
  decoder : Wire.Decoder
  address : Option Text := none
  isAsynchronous : Bool := false
  isClosed : Bool := false
  reader : Reader := .absent

/-- A client: a session over a connection. -/
abbrev Client := Session Connection

/-- The result of an operation that may wait for a device that never answers. -/
inductive Outcome (α : Type)
  | returned (value : α)
  | raised (error : Error)
  | waiting

/-- The options of a client; those left out come from the settings. -/
structure ClientOptions where
  secure : Value := .bool false
  cleartext : Option Value := none
  queueSize : Option Value := none
  encoding : Option Value := none

namespace Settings

/-- A value that is given, or else that of a setting. -/
def getUnless (given : Option Value) (setting : Setting) (settings : Settings) :
    Except Error Value × Settings :=
  match given with
  | some value => (.ok value, settings)
  | none => settings.get setting

end Settings

namespace Client

/-- A client over an established stream. -/
def create (options : ClientOptions) (stream : Stream) (settings : Settings) :
    Except Error Client × Settings :=
  match settings.getUnless options.cleartext .cleartext with
  | (.error error, settings) => (.error error, settings)
  | (.ok cleartext, settings) =>
      match settings.getUnless options.queueSize .queueSize with
      | (.error error, settings) => (.error error, settings)
      | (.ok queueSize, settings) =>
          match settings.getUnless options.encoding .encoding with
          | (.error error, settings) => (.error error, settings)
          | (.ok encoding, settings) =>
              (.ok { link :=
                { stream, secure := options.secure, cleartext, queueSize,
                  decoder := { encoding } } }, settings)

/-- The address that a client was dialed to, as shown in logs. -/
def shownAddress (client : Client) : Text :=
  client.link.address.getD (literal "None")

/-- Add an entry about the connection to the log, after its address. -/
def logAbout (level : LogLevel) (source : LogSource) (message : Text) (client : Client) : Client :=
  client.log level source (client.shownAddress ++ literal ": " ++ message)

/-- Close the connection, on any thread: the stream is closed, and outstanding requests are
completed. Only the first call has an effect, so a callback that closes the connection while it is
being closed has none. -/
def shutDown (client : Client) : Client :=
  if client.link.isClosed then client
  else
    let client := client.modifyLink ({ · with isClosed := true })
    let client := logAbout .info .client (literal "closing connection") client
    let client := client.modifyLink fun link => { link with stream := link.stream.close }
    client.failAll id (.closed .byCaller)

/-- Write the words of a sentence. A failed write closes the connection, in the given way. -/
def write (close : Client → Client) (words : List Word) (client : Client) :
    Except Error Unit × Client :=
  match Wire.encodeSentence client.link.decoder.encoding words with
  | .error error => (.error error, client)
  | .ok data =>
      if client.link.isClosed then (.error (.closed .alreadyClosed), client)
      else
        match Word.maskedAll words with
        | .error error => (.error error, client)
        | .ok shown =>
            let client := client.log .debug .client
              (literal ">>> " ++ Text.bracketed (shown.map Text.quoted))
            match client.link.stream.send data with
            | (.ok (), stream) => (.ok (), client.modifyLink ({ · with stream }))
            | (.error reason, stream) =>
                (.error (.closed (.writeFailed reason)),
                  close (client.modifyLink ({ · with stream })))

/-- Register a request for a command and write the command with its tag. The number of the request
is returned. A request whose command could not be written is taken out of the table again, unless
the error is not one of the API. -/
def submit (close : Client → Client) (words : List Word) (handler : Handler) (client : Client) :
    Except Error Nat × Client :=
  let (tag, dispatcher) := client.dispatcher.mint
  let (number, dispatcher) := dispatcher.adopt { tag, words, handler }
  match dispatcher.register number with
  | .error error => (.error error, { client with dispatcher })
  | .ok dispatcher =>
      match write close (words ++ [.text (Word.ofTag (.text tag))]) { client with dispatcher } with
      | (.ok (), client) => (.ok number, client)
      | (.error error, client) =>
          (.error error, if error.kind.isApi then client.remove tag else client)

/-- The command that stops the command of a tag. -/
def cancelCommand (tag : Value) : List Word :=
  [.text (literal "/cancel"), .text (Word.ofAttribute (literal "tag") tag)]

/-- The part of a client in the delivery of sentences, on the background reader. -/
def readerHost : Host Connection where
  cancel tag client :=
    match submit shutDown (cancelCommand (.text tag)) (.callbacks none none) client with
    | (.ok number, client) =>
        (.ok ((client.request? number).elim [] Request.tag), client)
    | (.error error, client) => (.error error, client)
  close := shutDown
  giveUp? link := if link.isClosed then some link else none

end Client
end RouterApi
