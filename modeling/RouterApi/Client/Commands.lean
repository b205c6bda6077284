import RouterApi.Client.Reader
import RouterApi.Session.Listening

/-!
# Commands

What a caller does with a client. A synchronous command is written and its reply read; an
asynchronous one returns the number of its request at once.
-/

namespace RouterApi
namespace Client

/-- Close the connection. -/
def close (client : Client) : Client :=
  if client.link.isClosed then client else settle (shutDown client)

/-- Switch a client to asynchronous operation. The reader starts with what synchronous reads have
left. -/
def switch (client : Client) : Except Error Unit × Client :=
  if client.link.isAsynchronous then (.ok (), client)
  else if client.link.isClosed then (.error (.closed .alreadyClosed), client)
  else
    let client := client.modifyLink ({ · with isAsynchronous := true, reader := .reading })
    let client := settle (consumeFrom client.link.decoder client)
    (.ok (), logAbout .info .client (literal "switched to asynchronous mode") client)

/-- Issue a tagged command, and return the number of its request. -/
def start (words : List Word) (handler : Handler) (client : Client) : Except Error Nat × Client :=
  match client.switch with
  | (.error error, client) => (.error error, client)
  | (.ok (), client) =>
      let (result, client) := submit close words handler client
      (result, settle client)

/-- Issue a command whose data sentences go to callbacks. -/
def runAsync (words : List Word) (onSentence onComplete : Option Reaction) (client : Client) :
    Except Error Nat × Client :=
  client.start words (.callbacks onSentence onComplete)

/-- Issue a command whose data sentences are queued for the caller. -/
def listen (words : List Word) (queueSize : Option Value) (client : Client) :
    Except Error Nat × Client :=
  let capacity := Capacity.ofValue (queueSize.getD client.link.queueSize)
  client.start words (.listener { capacity })

/-- Ask the device to stop the command of a tag, and return the number of the request of that. -/
def cancel (tag : Value) (client : Client) : Except Error Nat × Client :=
  client.runAsync (cancelCommand tag) none none

/-- Ask the device to stop the command of a request; nothing if the request is complete. -/
def cancelRequest (number : Nat) (client : Client) : Except Error (Option Text) × Client :=
  Session.cancelRequest (fun tag client =>
    match cancel (.text tag) client with
    | (.ok number, client) => (.ok ((client.request? number).elim [] Request.tag), client)
    | (.error error, client) => (.error error, client)) number client

/-- Complete a request with an error, as when the connection is lost. -/
def fail (number : Nat) (error : Error) (client : Client) : Except Error Unit × Client :=
  let (result, client) := client.finish close number (some error)
  (result, settle client)

/-- Read the next sentence. A failure of the transport or of the framing closes the connection. -/
def readSentence (client : Client) : Except Error Sentence × Client :=
  let (result, decoder, stream) := client.link.stream.readSentence client.link.decoder
  let client := client.modifyLink ({ · with decoder, stream })
  match result with
  | .ok words =>
      let sentence := Sentence.ofTexts words
      (.ok sentence, client.log .debug .client (literal "<<< " ++ sentence.summary))
  | .error (.transport reason) => (.error (.closed (.readFailed reason)), close client)
  | .error error => (.error error, if error.kind.isApi then close client else client)

/-- Read sentences into a reply until it is complete, at most one per unit of fuel. -/
def readReplyFrom : Nat → Reply → Client → Except Error Reply × Client
  | 0, _, client => (.error (Stream.endError client.link.decoder), client)
  | fuel + 1, reply, client =>
      match client.readSentence with
      | (.error error, client) => (.error error, client)
      | (.ok sentence, client) =>
          let reply := reply.process sentence
          if sentence.isTerminal then (.ok reply, client) else readReplyFrom fuel reply client

/-- The number of bytes that a client has yet to read. -/
def unreadSize (client : Client) : Nat :=
  client.link.decoder.buffer.length + client.link.stream.unreadSize

/-- Read the reply of a synchronous command. Every sentence takes at least one byte. A connection
whose reply failed first by a fatal sentence is closed. -/
def readReply (client : Client) : Except Error Reply × Client :=
  match readReplyFrom (client.unreadSize + 1) {} client with
  | (.error error, client) => (.error error, client)
  | (.ok reply, client) =>
      match reply.failure with
      | some (.fatal _) => (reply.result, close client)
      | _ => (reply.result, client)

/-- Run a command on a synchronous connection. -/
def runSync (words : List Word) (client : Client) : Except Error Reply × Client :=
  match write close words client with
  | (.error error, client) => (.error error, client)
  | (.ok (), client) => readReply client

/-- The result of a request that is waited for. -/
def await (number : Nat) (client : Client) : Outcome Reply :=
  match client.request? number with
  | none => .waiting
  | some request =>
      match request.outcome with
      | none => .waiting
      | some (some error) => .raised error
      | some none => .returned request.reply

/-- Run a command and wait for its reply. -/
def run (words : List Word) (client : Client) : Outcome Reply × Client :=
  if client.link.isAsynchronous then
    match client.runAsync words none none with
    | (.error error, client) => (.raised error, client)
    | (.ok number, client) => (await number client, client)
  else
    match client.runSync words with
    | (.error error, client) => (.raised error, client)
    | (.ok reply, client) => (.returned reply, client)

/-- What ended the reader, if it has ended. -/
def join (client : Client) : Option Error :=
  match client.link.reader with
  | .ended error => some error
  | _ => none

/-- Let the device send chunks, one after the other; whether the connection was still open before
each. -/
def receive : List Chunk → Client → Bool × Client
  | [], client => (true, client)
  | chunk :: later, client =>
      if client.link.isClosed then (false, client)
      else
        receive later (settle (client.modifyLink fun link =>
          { link with stream := link.stream.arrive [chunk] }))

/-- Let the device hang up, which only an open asynchronous connection notices at once. -/
def hangUp (client : Client) : Client :=
  if client.link.isAsynchronous && !client.link.isClosed then
    settle (client.modifyLink fun link =>
      { link with stream := { link.stream with hungUp := true } })
  else client

/-- Take the next sentence of a listener. -/
def takeNext? (number : Nat) (client : Client) : Option (Taken × Client) :=
  (Session.takeNext? number client).map fun (taken, client) => (taken, settle client)

/-- Take all sentences of a listener up to the end. -/
def takeAll? (number : Nat) (client : Client) : Option (Option (List Sentence) × Client) :=
  (Session.takeAll? number client).map fun (taken, client) => (taken, settle client)

end Client
end RouterApi
