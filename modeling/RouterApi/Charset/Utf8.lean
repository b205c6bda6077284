import RouterApi.Text

/-!
# UTF-8

Each code point that is no surrogate takes one to four bytes. Reading never fails: a byte that
does not belong to a well-formed character (a stray continuation byte, an overlong form, an
encoded surrogate, a value beyond the last code point) is kept as an escape, see
`RouterApi.Charset.Escape`.
-/

namespace RouterApi
namespace Utf8

/-- The bytes of a code point that is no surrogate. -/
def encodePoint (point : CodePoint) : Bytes :=
  let value := point.val
  let continuation (shift : Nat) : UInt8 := UInt8.ofNat (0x80 + value / shift % 0x40)
  if value < 0x80 then [UInt8.ofNat value]
  else if value < 0x800 then [UInt8.ofNat (0xC0 + value / 0x40), continuation 1]
  else if value < 0x10000 then
    [UInt8.ofNat (0xE0 + value / 0x1000), continuation 0x40, continuation 1]
  else
    [UInt8.ofNat (0xF0 + value / 0x40000), continuation 0x1000, continuation 0x40, continuation 1]

/-- The six payload bits of a continuation byte. -/
def continuation? (byte : UInt8) : Option Nat :=
  if 0x80 ≤ byte.toNat ∧ byte.toNat < 0xC0 then some (byte.toNat - 0x80) else none

/-- The value of the character that starts with a lead byte, and the number of bytes that follow
the lead byte, when the bytes are a well-formed character. -/
def character? (lead : UInt8) (following : Bytes) : Option (CodePoint × Nat) :=
  let start := lead.toNat
  let wellFormed (least value count : Nat) : Option (CodePoint × Nat) :=
    if least ≤ value ∧ ¬ (0xD800 ≤ value ∧ value ≤ 0xDFFF) then
      if bound : value < 0x110000 then some (⟨value, bound⟩, count) else none
    else none
  if start < 0x80 then wellFormed 0 start 0
  else if start < 0xC0 then none
  else if start < 0xE0 then
    match following with
    | second :: _ => do
        let low ← continuation? second
        wellFormed 0x80 ((start - 0xC0) * 0x40 + low) 1
    | _ => none
  else if start < 0xF0 then
    match following with
    | second :: third :: _ => do
        let middle ← continuation? second
        let low ← continuation? third
        wellFormed 0x800 (((start - 0xE0) * 0x40 + middle) * 0x40 + low) 2
    | _ => none
  else if start < 0xF8 then
    match following with
    | second :: third :: fourth :: _ => do
        let upper ← continuation? second
        let middle ← continuation? third
        let low ← continuation? fourth
        wellFormed 0x10000 ((((start - 0xF0) * 0x40 + upper) * 0x40 + middle) * 0x40 + low) 3
    | _ => none
  else none

end Utf8
end RouterApi
