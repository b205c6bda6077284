import RouterApi.Text

/-!
# Hexadecimal bytes

Bytes written as pairs of hexadecimal digits, and the reading of such a text, which tells apart
the three ways in which it can fail.
-/

namespace RouterApi
namespace Hex

/-- Why a text does not denote bytes. -/
inductive Fault
  | notAscii
  | oddLength
  | notHexadecimal
  deriving DecidableEq, Repr

/-- The two lower-case digits of a byte. -/
def encodeByte (byte : UInt8) : Text :=
  Text.ofNatHex 2 byte.toNat

/-- Bytes as a text of lower-case digits. -/
def encode (bytes : Bytes) : Text :=
  bytes.flatMap encodeByte

/-- The bytes of a text of digit pairs, in either letter case, after those already read. -/
def decodePairs (read : Bytes) : Text → Except Fault Bytes
  | high :: low :: rest =>
      match high.hexValue?, low.hexValue? with
      | some upper, some lower => decodePairs (UInt8.ofNat (upper * 16 + lower) :: read) rest
      | _, _ => .error .notHexadecimal
  | _ => .ok read.reverse

/-- The bytes that hexadecimal digits denote, of which there must be an even number. -/
def decodeDigits (digits : Text) : Except Fault Bytes :=
  if digits.length % 2 = 1 then .error .oddLength else decodePairs [] digits

/-- The bytes that a text of hexadecimal digits denotes. -/
def decode (digits : Text) : Except Fault Bytes :=
  if digits.any (0x80 ≤ ·.val) then .error .notAscii else decodeDigits digits

end Hex
end RouterApi
