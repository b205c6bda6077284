import RouterApi.Encoding
import RouterApi.Word

/-!
# Encoding sentences

A word is sent as its length prefix and its bytes, a sentence as its words and a zero byte. Since a
word of no bytes ends a sentence, empty words are refused.
-/

namespace RouterApi
namespace Wire

/-- The bytes of a word without its prefix. -/
def wordBytes (encoding : Value) : Word → Except Error Bytes
  | .text content => Encoding.encode encoding content
  | .bytes content => .ok content
  | _ => .error (.unsupported .type)

/-- The bytes of a word with its length prefix. -/
def encodeWord (encoding : Value) (word : Word) : Except Error Bytes :=
  match wordBytes encoding word with
  | .error error => .error error
  | .ok bytes =>
      match LengthPrefix.encode bytes.length with
      | .ok lead => .ok (lead ++ bytes)
      | .error fault => .error (.badLength fault)

/-- Whether a word is empty. -/
def isEmpty : Word → Bool
  | .text content => content.isEmpty
  | .bytes content => content.isEmpty
  | _ => false

/-- The bytes of the words of a sentence. -/
def encodeWords (encoding : Value) : List Word → Except Error Bytes
  | [] => .ok []
  | word :: rest =>
      if isEmpty word then .error .emptyWord
      else
        match encodeWord encoding word with
        | .error error => .error error
        | .ok bytes =>
            match encodeWords encoding rest with
            | .error error => .error error
            | .ok later => .ok (bytes ++ later)

/-- The bytes of a sentence with its terminator. -/
def encodeSentence (encoding : Value) (words : List Word) : Except Error Bytes :=
  match encodeWords encoding words with
  | .error error => .error error
  | .ok bytes => .ok (bytes ++ [0])

end Wire
end RouterApi
