import RouterApi.Text

/-!
# Length prefixes

Each word on the wire is preceded by its length, in one to five bytes. The leading bits of the first
byte tell how many bytes the prefix takes, and a first byte of 0xF8 or more is reserved. A length is
always written in the fewest bytes; longer forms are accepted when reading.

A prefix is read at the front of bytes, or at a position in a buffer. Positions below zero count
from the end of the buffer.
-/

namespace RouterApi
namespace LengthPrefix

/-- The greatest length that a prefix can hold. -/
def maximum : Nat := 0xFFFFFFFF

/-- Why a length has no prefix. -/
inductive Fault
  | negative
  | tooLong (length : Nat)
  deriving DecidableEq, Repr

/-- The low bytes of a number, the most significant first. -/
def bigEndian : Nat → Nat → Bytes
  | 0, _ => []
  | width + 1, number => bigEndian width (number / 256) ++ [UInt8.ofNat (number % 256)]

@[simp] theorem length_bigEndian (width number : Nat) :
    (bigEndian width number).length = width := by
  induction width generalizing number with
  | zero => rfl
  | succ width inductionHypothesis => simp [bigEndian, inductionHypothesis]

/-- The prefix of a word of the given length. -/
def encode (length : Nat) : Except Fault Bytes :=
  if length < 0x80 then .ok (bigEndian 1 length)
  else if length < 0x4000 then .ok (bigEndian 2 (0x8000 + length))
  else if length < 0x200000 then .ok (bigEndian 3 (0xC00000 + length))
  else if length < 0x10000000 then .ok (bigEndian 4 (0xE0000000 + length))
  else if length ≤ maximum then .ok (0xF0 :: bigEndian 4 length)
  else .error (.tooLong length)

/-- The prefix for a length that may be negative, which is refused. -/
def encodeInt : Int → Except Fault Bytes
  | .ofNat length => encode length
  | .negSucc _ => .error .negative

/-- Read the remaining bytes of a prefix. Nothing is returned while some are missing. -/
def readMore : Nat → Nat → Bytes → Option (Nat × Bytes)
  | 0, length, rest => some (length, rest)
  | _ + 1, _, [] => none
  | count + 1, length, byte :: rest => readMore count (length * 256 + byte.toNat) rest

/-- What the first byte of a prefix tells: the number of bytes after it, and the leading bits of the
length. A reserved byte cannot start a prefix. -/
def lead (first : UInt8) : Except UInt8 (Nat × Nat) :=
  let value := first.toNat
  if value < 0x80 then .ok (0, value)
  else if value < 0xC0 then .ok (1, value - 0x80)
  else if value < 0xE0 then .ok (2, value - 0xC0)
  else if value < 0xF0 then .ok (3, value - 0xE0)
  else if value < 0xF8 then .ok (4, 0)
  else .error first

/-- Read the prefix at the front of the bytes: the length and the bytes after it, nothing while the
prefix is incomplete, or the reserved byte that cannot start one. -/
def read? : Bytes → Except UInt8 (Option (Nat × Bytes))
  | [] => .ok none
  | first :: rest =>
      match lead first with
      | .error byte => .error byte
      | .ok (count, bits) => .ok (readMore count bits rest)

/-- Why a prefix cannot be read at a position. -/
inductive Misread
  | reserved (byte : UInt8)
  | outside
  deriving DecidableEq, Repr

/-- The part of a buffer between two positions. -/
def slice (buffer : Bytes) (start stop : Int) : Bytes :=
  let index (position : Int) : Nat :=
    (if position < 0 then position + buffer.length else position).toNat
  (buffer.take (index stop)).drop (index start)

/-- Read the prefix whose first byte is at a position below zero. The bytes after it are those
between the next position and the end of the prefix, wherever these positions count from. -/
def readBack? (buffer : Bytes) (position : Int) : Except Misread (Option (Nat × Int)) :=
  if position + buffer.length < 0 then .error .outside
  else
    match slice buffer position buffer.length with
    | [] => .ok none
    | first :: _ =>
        match lead first with
        | .error byte => .error (.reserved byte)
        | .ok (count, bits) =>
            let stop := position + 1 + count
            if buffer.length < stop then .ok none
            else
              let more := slice buffer (position + 1) stop
              .ok (some (more.foldl (fun length byte => length * 256 + byte.toNat) bits, stop))

/-- Read the prefix at a position of a buffer: the length and the position after the prefix. -/
def readAt? (buffer : Bytes) : Int → Except Misread (Option (Nat × Int))
  | .negSucc back => readBack? buffer (.negSucc back)
  | .ofNat offset =>
      match read? (buffer.drop offset) with
      | .error byte => .error (.reserved byte)
      | .ok result =>
          .ok (result.map fun (length, rest) => (length, (buffer.length : Int) - rest.length))

end LengthPrefix
end RouterApi
