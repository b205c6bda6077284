import RouterApi.Charset.Utf8
import RouterApi.Charset.Escape

/-!
# Character sets

The encodings that words may be sent and read in: UTF-8, ASCII and Latin-1. No other encodings are
supported, so the name of any other one is as unknown as a name of none. Decoding is total: a byte
that is no text in the encoding becomes an escape. Encoding turns escapes back into their bytes and
fails on any other code point that the encoding cannot represent.
-/

namespace RouterApi

/-- A supported encoding of text as bytes. -/
inductive Charset
  | utf8
  | ascii
  | latin1
  deriving DecidableEq, Repr

namespace Charset

/-- Whether a code point belongs to the name of an encoding rather than separating its parts. -/
def isNamePoint (point : CodePoint) : Bool :=
  let lower := point.toLower.val
  (0x30 ≤ lower && lower ≤ 0x39) || (0x61 ≤ lower && lower ≤ 0x7A) ||
    point == CodePoint.ofChar '.'

/-- Normalize the rest of a name, after what has been written of it, in reverse order, and possibly
a separator. -/
def normalizeOnto (written : Text) (separated : Bool) : Text → Text
  | [] => written.reverse
  | point :: rest =>
      if isNamePoint point then
        let written :=
          if separated && !written.isEmpty then CodePoint.ofChar '_' :: written else written
        normalizeOnto (point.toLower :: written) false rest
      else normalizeOnto written true rest

/-- The name of an encoding in lower case, with one underscore for each run of separators between
its parts. -/
def normalizeName (name : Text) : Text :=
  normalizeOnto [] false name

/-- The normalized name of an encoding. -/
def name : Charset → Text
  | utf8 => literal "utf_8"
  | ascii => literal "ascii"
  | latin1 => literal "latin_1"

/-- The other normalized names of an encoding. A name may have points where these have underscores,
but not underscores where these have points. -/
def aliases : Charset → List Text
  | utf8 => [literal "utf8", literal "utf", literal "u8", literal "utf8_ucs2", literal "utf8_ucs4",
      literal "cp65001"]
  | ascii => [literal "us_ascii", literal "us", literal "646", literal "iso646_us",
      literal "ansi_x3.4_1968", literal "ansi_x3_4_1968", literal "ansi_x3.4_1986",
      literal "cp367", literal "csascii", literal "ibm367", literal "iso_646.irv_1991",
      literal "iso_ir_6"]
  | latin1 => [literal "latin1", literal "latin", literal "l1", literal "8859", literal "iso8859",
      literal "iso8859_1", literal "iso_8859_1", literal "iso_8859_1_1987", literal "iso_ir_100",
      literal "cp819", literal "csisolatin1", literal "ibm819"]

/-- Whether a normalized name names an encoding. -/
def isNamed (normalized : Text) (charset : Charset) : Bool :=
  let joined := normalized.map fun point =>
    if point == CodePoint.ofChar '.' then CodePoint.ofChar '_' else point
  normalized == charset.name || charset.aliases.contains normalized ||
    charset.aliases.contains joined

/-- The supported encoding of a name. A name of any other encoding gives nothing, like a name that
is unknown. -/
def ofName? (name : Text) : Option Charset :=
  [utf8, ascii, latin1].find? (isNamed (normalizeName name))

/-- The bytes of a code point as a character of the encoding, when it is one. -/
def encodeCharacter? : Charset → CodePoint → Option Bytes
  | .utf8, point => if point.isSurrogate then none else some (Utf8.encodePoint point)
  | .ascii, point => if point.val < 0x80 then some [UInt8.ofNat point.val] else none
  | .latin1, point => if point.val < 0x100 then some [UInt8.ofNat point.val] else none

/-- The bytes of a code point: its character, or the byte that it stands for as an escape. -/
def encodePoint? (charset : Charset) (point : CodePoint) : Option Bytes :=
  match charset.encodeCharacter? point with
  | some bytes => some bytes
  | none => point.escapedByte?.map ([·])

/-- The bytes of a text, or nothing if some code point cannot be represented. -/
def encode? (charset : Charset) (content : Text) : Option Bytes :=
  if content.all fun point => (charset.encodePoint? point).isSome then
    some (content.flatMap fun point => (charset.encodePoint? point).getD [])
  else none

/-- The bytes of a text without escapes, or nothing if some code point is no character of the
encoding. -/
def encodeStrict? (charset : Charset) (content : Text) : Option Bytes :=
  if content.all fun point => (charset.encodeCharacter? point).isSome then
    some (content.flatMap fun point => (charset.encodeCharacter? point).getD [])
  else none

/-- The code point read at a byte, and the number of bytes after it that belong to the same
character. -/
def decodeAt (charset : Charset) (byte : UInt8) (following : Bytes) : CodePoint × Nat :=
  match charset with
  | .utf8 => (Utf8.character? byte following).getD (CodePoint.escapeOf byte, 0)
  | .ascii => (if byte.toNat < 0x80 then CodePoint.ofByte byte else CodePoint.escapeOf byte, 0)
  | .latin1 => (CodePoint.ofByte byte, 0)

/-- Decode bytes after code points already read, which are held in reverse order. The first `owed`
bytes belong to a character that has been read. -/
def decodeOnto (charset : Charset) (owed : Nat) (read : Text) : Bytes → Text
  | [] => read.reverse
  | byte :: rest =>
      match owed with
      | still + 1 => decodeOnto charset still read rest
      | 0 =>
          let (point, more) := charset.decodeAt byte rest
          decodeOnto charset more (point :: read) rest

/-- The text of bytes, with every byte that is no text kept as an escape. -/
def decode (charset : Charset) (bytes : Bytes) : Text :=
  charset.decodeOnto 0 [] bytes

end Charset
end RouterApi
