import RouterApi.Wire.Decoder

/-!
# Streams

The transport of a connection, as far as a connection can tell: what it has written, and a script of
what the device does in answer to each write. The device's bytes arrive in chunks. A caller that
reads gets one chunk at a time, in pieces of a bounded size; no chunk, or an empty one, is the end
of the stream.
-/

namespace RouterApi

/-- Something that arrives from the device: bytes, or a failure of the transport. -/
inductive Chunk
  | data (bytes : Bytes)
  | failure (reason : Text)
  deriving DecidableEq, Repr

/-- The number of bytes of a chunk. -/
def Chunk.size : Chunk → Nat
  | data bytes => bytes.length
  | failure _ => 0

/-- What happens when a sentence is written: the device answers, or the write fails. -/
inductive Answer
  | chunks (arriving : List Chunk)
  | failure (reason : Text)
  deriving DecidableEq, Repr

/-- The state of a transport. All data that it has been given to write is offered; what it has taken
is written. -/
structure Stream where
  script : List Answer := []
  unread : List Chunk := []
  offered : List Bytes := []
  written : List Bytes := []
  receives : Nat := 0
  closes : Nat := 0
  hungUp : Bool := false
  deriving DecidableEq, Repr

/-- What a reader finds that takes everything that has arrived. -/
inductive Arrival
  | nothing
  | data (bytes : Bytes)
  | failure (reason : Text)
  | ended
  deriving DecidableEq, Repr

namespace Stream

/-- The greatest number of bytes that one read returns. -/
def receiveSize : Nat := 65536

/-- Cut bytes into pieces that one read can return, one per unit of fuel. -/
def piecesFrom : Nat → Bytes → List Bytes
  | 0, bytes => [bytes]
  | fuel + 1, bytes =>
      match bytes.splitAt receiveSize with
      | (piece, []) => [piece]
      | (piece, rest) => piece :: piecesFrom fuel rest

/-- A chunk in the pieces that reads return. -/
def pieces : Chunk → List Chunk
  | .data bytes => (piecesFrom (bytes.length / receiveSize) bytes).map .data
  | .failure reason => [.failure reason]

/-- Let chunks arrive. -/
def arrive (chunks : List Chunk) (stream : Stream) : Stream :=
  { stream with unread := stream.unread ++ chunks.flatMap pieces }

/-- Write data: the device answers as its script says, and a failed write gives its reason. -/
def send (data : Bytes) (stream : Stream) : Except Text Unit × Stream :=
  let offered := stream.offered ++ [data]
  match stream.script with
  | [] => (.ok (), { stream with offered, written := stream.written ++ [data] })
  | .failure reason :: rest => (.error reason, { stream with offered, script := rest })
  | .chunks arriving :: rest =>
      (.ok (), { stream with offered, script := rest, written := stream.written ++ [data] }.arrive
        arriving)

/-- Read one piece; no bytes are the end of the stream. -/
def receive (stream : Stream) : Except Text Bytes × Stream :=
  let stream := { stream with receives := stream.receives + 1 }
  match stream.unread with
  | [] => (.ok [], stream)
  | .data bytes :: rest => (.ok bytes, { stream with unread := rest })
  | .failure reason :: rest => (.error reason, { stream with unread := rest })

/-- The bytes at the front of what has arrived, up to a failure, and what follows them. -/
def spanData : List Chunk → Bytes × List Chunk
  | .data bytes :: rest =>
      let (more, left) := spanData rest
      (bytes ++ more, left)
  | left => ([], left)

/-- Take everything that has arrived up to a failure. The end of the stream only shows once the
device has hung up. -/
def takeArrived (stream : Stream) : Arrival × Stream :=
  match spanData stream.unread with
  | (first :: more, left) => (.data (first :: more), { stream with unread := left })
  | ([], .failure reason :: rest) => (.failure reason, { stream with unread := rest })
  | ([], left) =>
      (if stream.hungUp then .ended else .nothing, { stream with unread := left })

/-- The number of pieces that arrive in answer to a write. -/
def pieceCount : Answer → Nat
  | .chunks arriving => (arriving.flatMap pieces).length
  | .failure _ => 0

/-- The number of pieces that have arrived or may still arrive in answer to writes. -/
def extent (stream : Stream) : Nat :=
  stream.script.foldl (fun count answer => count + pieceCount answer) stream.unread.length

/-- The number of bytes that have arrived and are not read. -/
def unreadSize (stream : Stream) : Nat :=
  stream.unread.foldl (fun size chunk => size + chunk.size) 0

/-- Close the transport. -/
def close (stream : Stream) : Stream :=
  { stream with closes := stream.closes + 1 }

/-- The error of a stream that ended, which depends on whether it ended inside a sentence. -/
def endError (decoder : Wire.Decoder) : Error :=
  if decoder.isPending then .framing .endedInside else .closed .byDevice

/-- Read from a stream until a decoder has a complete sentence, at most once per unit of fuel. -/
def readSentenceFrom : Nat → Wire.Decoder → Stream →
    Except Error (List Text) × Wire.Decoder × Stream
  | fuel, decoder, stream =>
      match decoder.next with
      | .error error => (.error error, decoder, stream)
      | .ok (some (words, decoder)) => (.ok words, decoder, stream)
      | .ok none =>
          match stream.receive with
          | (.error reason, stream) => (.error (.transport reason), decoder, stream)
          | (.ok [], stream) => (.error (endError decoder), decoder, stream)
          | (.ok data, stream) =>
              match fuel with
              | 0 => (.error (endError decoder), decoder, stream)
              | fuel + 1 => readSentenceFrom fuel (decoder.feed data) stream

/-- Read from a stream until a decoder has a complete sentence. -/
def readSentence (decoder : Wire.Decoder) (stream : Stream) :
    Except Error (List Text) × Wire.Decoder × Stream :=
  readSentenceFrom stream.unread.length decoder stream

end Stream
end RouterApi
