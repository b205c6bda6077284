import RouterApi.Charset
import RouterApi.Error

/-!
# Encodings by name

The encoding of a connection is a setting. Its value is only examined when a text is encoded or
decoded, so a bad name shows as an error of the word, not of the connection. A name is bad unless it
is that of UTF-8, ASCII or Latin-1.

How bytes are cut into sentences does not depend on the encoding: what is proved of that for every
value of the setting would hold for further encodings as well. What is proved of the text of words
concerns the supported ones.
-/

namespace RouterApi
namespace Encoding

/-- The supported character set that the value of a setting names. The name must itself be plain
text, without surrogates and null characters. -/
def charset (encoding : Value) : Except Error Charset :=
  match encoding with
  | .text name =>
      if name.any CodePoint.isSurrogate then .error (.unencodableName name)
      else if name.contains (CodePoint.ofChar '\x00') then
        .error (.stated .value (literal "embedded null character"))
      else
        match Charset.ofName? name with
        | some charset => .ok charset
        | none => .error (.unknownEncoding name)
  | other => .error (.badEncoding other)

/-- The bytes of a text in an encoding. -/
def encode (encoding : Value) (content : Text) : Except Error Bytes :=
  match charset encoding with
  | .error error => .error error
  | .ok charset =>
      match charset.encode? content with
      | some bytes => .ok bytes
      | none => .error .unencodable

/-- The text of bytes in an encoding. -/
def decode (encoding : Value) (bytes : Bytes) : Except Error Text :=
  match charset encoding with
  | .error error => .error error
  | .ok charset => .ok (charset.decode bytes)

end Encoding
end RouterApi
