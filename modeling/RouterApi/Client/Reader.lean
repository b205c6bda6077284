import RouterApi.Client

/-!
# The background reader

The reader of an asynchronous connection takes what has arrived, decodes it, and dispatches each
complete sentence. Whatever ends it (the end of the stream, lost framing, a fatal sentence, or the
closing of the connection) completes the outstanding requests and closes the connection.
-/

namespace RouterApi
namespace Client

/-- End the reader with an error. -/
def endReader (error : Error) (client : Client) : Client :=
  let client :=
    if error.kind.isApi then client
    else client.log .error .request (literal "unexpected error in reader thread")
  let client := client.modifyLink ({ · with reader := .ended error })
  let client := client.log .debug .request (literal "reader exiting: " ++ error.message)
  let client := client.failAll shutDown error
  let client :=
    if client.link.isClosed then
      logAbout .debug .client (literal "reader stopped: " ++ error.message) client
    else logAbout .warning .client (literal "connection lost: " ++ error.message) client
  shutDown client

/-- What ends the reader when its decoder fails. An error about the content of a value counts as the
loss of a connection that is not closed yet. -/
def decoderEnd (error : Error) (client : Client) : Error :=
  if error.kind.isAboutValue then
    if client.link.isClosed then .closed .byCaller else .closed (.lost error.kind error.message)
  else error

/-- Dispatch decoded sentences in order; what the decoder ended with takes effect after them. -/
def consume : List (List Text) → Wire.Decoder.Ending → Client → Client
  | [], .ok decoder, client => client.modifyLink ({ · with decoder, reader := .reading })
  | [], .error error, client => endReader (decoderEnd error client) client
  | words :: later, ending, client =>
      let sentence := Sentence.ofTexts words
      let client := client.log .debug .request (literal "<<< " ++ sentence.summary)
      match client.dispatch readerHost sentence with
      | (.handled, client) => consume later ending client
      | (.raised error, client) => endReader error client
      | (.stalled number, client) =>
          client.modifyLink ({ · with reader := .stalled number sentence later ending })

/-- Dispatch the complete sentences of a decoder. -/
def consumeFrom (decoder : Wire.Decoder) (client : Client) : Client :=
  let (sentences, ending) := decoder.drain
  consume sentences ending client

/-- Let the reader take what has arrived, at most once per unit of fuel. -/
def pump : Nat → Client → Client
  | 0, client => client
  | fuel + 1, client =>
      match client.link.reader with
      | .reading =>
          if client.link.isClosed then endReader (.closed .byCaller) client
          else
            match client.link.stream.takeArrived with
            | (.nothing, _) => client
            | (.ended, _) => endReader (Stream.endError client.link.decoder) client
            | (.failure reason, stream) =>
                endReader (.closed (.lost .transport reason))
                  (client.modifyLink ({ · with stream }))
            | (.data bytes, stream) =>
                pump fuel (consumeFrom (client.link.decoder.feed bytes)
                  (client.modifyLink ({ · with stream })))
      | _ => client

/-- Let a reader that is held up go on if there is room in the queue by now, or if the connection
has been closed. -/
def resume (client : Client) : Client :=
  match client.link.reader with
  | .stalled number sentence later ending =>
      match client.deliver readerHost number sentence with
      | (.stalled, client) => client
      | (_, client) => consume later ending client
  | _ => client

/-- Let the reader do all that it can. Each turn takes at least one piece from the stream, except
the one that ends the reader. -/
def settle (client : Client) : Client :=
  let client := resume client
  pump (client.link.stream.extent + 1) client

end Client
end RouterApi
