import RouterApi.Encoding

/-!
# Decoding sentences

Bytes arrive in whatever pieces the transport provides. A decoder buffers them, and hands out each
sentence once all of its bytes are there. Words may arrive long before their sentence is complete,
so a word that cannot be decoded shows early.
-/

namespace RouterApi
namespace Wire

/-- What the front of a buffer holds: a complete sentence with the bytes after it, or nothing that
is complete yet. -/
abbrev Scan := Option (List Text × Bytes)

/-- Read words, one per unit of fuel, up to a word of length zero. -/
def scanWords (encoding : Value) : Nat → Bytes → Except Error Scan
  | 0, _ => .ok none
  | fuel + 1, buffer =>
      match LengthPrefix.read? buffer with
      | .error byte => .error (.framing (.reservedByte byte))
      | .ok none => .ok none
      | .ok (some (0, rest)) => .ok (some ([], rest))
      | .ok (some (length + 1, rest)) =>
          let (word, rest) := rest.splitAt (length + 1)
          if word.length = length + 1 then
            match Encoding.decode encoding word with
            | .error error => .error error
            | .ok word =>
                match scanWords encoding fuel rest with
                | .error error => .error error
                | .ok scan => .ok (scan.map fun (words, rest) => (word :: words, rest))
          else .ok none

/-- Read the sentence at the front of a buffer. Every word takes at least one byte, so the length of
the buffer bounds the number of words. -/
def scanSentence (encoding : Value) (buffer : Bytes) : Except Error Scan :=
  scanWords encoding (buffer.length + 1) buffer

/-- A decoder: the encoding of the words, and the bytes that no sentence has been made of yet. -/
structure Decoder where
  encoding : Value
  buffer : Bytes := []
  deriving DecidableEq

namespace Decoder

/-- Hand bytes to a decoder. -/
def feed (data : Bytes) (decoder : Decoder) : Decoder :=
  { decoder with buffer := decoder.buffer ++ data }

@[simp] theorem buffer_feed (data : Bytes) (decoder : Decoder) :
    (decoder.feed data).buffer = decoder.buffer ++ data := rfl

@[simp] theorem encoding_feed (data : Bytes) (decoder : Decoder) :
    (decoder.feed data).encoding = decoder.encoding := rfl

@[simp] theorem feed_nil (decoder : Decoder) : decoder.feed [] = decoder := by
  simp [feed]

/-- Bytes may be handed over in any pieces. -/
theorem feed_append (first second : Bytes) (decoder : Decoder) :
    decoder.feed (first ++ second) = (decoder.feed first).feed second := by
  simp [feed]

/-- Whether a decoder holds part of a sentence. -/
def isPending (decoder : Decoder) : Bool :=
  !decoder.buffer.isEmpty

/-- The next complete sentence, if there is one, and the decoder without its bytes. -/
def next (decoder : Decoder) : Except Error (Option (List Text × Decoder)) :=
  match scanSentence decoder.encoding decoder.buffer with
  | .error error => .error error
  | .ok scan =>
      .ok (scan.map fun (words, rest) => (words, { decoder with buffer := rest }))

/-- What is left once a decoder has handed out all complete sentences: the decoder, or the error
that stopped it. -/
abbrev Ending := Except Error Decoder

/-- The complete sentences of a decoder, at most one per unit of fuel, and what is left. -/
def drainFrom : Nat → Decoder → List (List Text) × Ending
  | 0, decoder => ([], .ok decoder)
  | fuel + 1, decoder =>
      match decoder.next with
      | .error error => ([], .error error)
      | .ok none => ([], .ok decoder)
      | .ok (some (words, rest)) =>
          let (sentences, ending) := drainFrom fuel rest
          (words :: sentences, ending)

/-- All complete sentences of a decoder, and what is left. Every sentence takes at least one byte.
-/
def drain (decoder : Decoder) : List (List Text) × Ending :=
  drainFrom (decoder.buffer.length + 1) decoder

end Decoder

/-- The words of bytes that are exactly one sentence. -/
def decodeSentence (encoding : Value) (data : Bytes) : Except Error (List Text) :=
  match scanSentence encoding data with
  | .error error => .error error
  | .ok none => .error (.framing .truncated)
  | .ok (some (words, [])) => .ok words
  | .ok (some (_, _ :: _)) => .error (.framing .trailing)

end Wire
end RouterApi
