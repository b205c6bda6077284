import RouterApi.Text

/-!
# MD5

The message digest that the challenge login answers with. The message is padded to whole blocks of
64 bytes, each block is read as sixteen little-endian words, and the state of four words is updated
by 64 steps per block.
-/

namespace RouterApi
namespace Md5

/-- The four words of the state. -/
structure State where
  a : UInt32
  b : UInt32
  c : UInt32
  d : UInt32
  deriving DecidableEq

/-- The state before the first block. -/
def initial : State :=
  ⟨0x67452301, 0xefcdab89, 0x98badcfe, 0x10325476⟩

/-- The amounts by which the steps of each round rotate. -/
def rotations : Array UInt32 := #[
  7, 12, 17, 22, 7, 12, 17, 22, 7, 12, 17, 22, 7, 12, 17, 22,
  5, 9, 14, 20, 5, 9, 14, 20, 5, 9, 14, 20, 5, 9, 14, 20,
  4, 11, 16, 23, 4, 11, 16, 23, 4, 11, 16, 23, 4, 11, 16, 23,
  6, 10, 15, 21, 6, 10, 15, 21, 6, 10, 15, 21, 6, 10, 15, 21]

/-- The constants of the steps: the first 32 bits of the fraction of the sines of 1 to 64. -/
def constants : Array UInt32 := #[
  0xd76aa478, 0xe8c7b756, 0x242070db, 0xc1bdceee, 0xf57c0faf, 0x4787c62a, 0xa8304613, 0xfd469501,
  0x698098d8, 0x8b44f7af, 0xffff5bb1, 0x895cd7be, 0x6b901122, 0xfd987193, 0xa679438e, 0x49b40821,
  0xf61e2562, 0xc040b340, 0x265e5a51, 0xe9b6c7aa, 0xd62f105d, 0x02441453, 0xd8a1e681, 0xe7d3fbc8,
  0x21e1cde6, 0xc33707d6, 0xf4d50d87, 0x455a14ed, 0xa9e3e905, 0xfcefa3f8, 0x676f02d9, 0x8d2a4c8a,
  0xfffa3942, 0x8771f681, 0x6d9d6122, 0xfde5380c, 0xa4beea44, 0x4bdecfa9, 0xf6bb4b60, 0xbebfbc70,
  0x289b7ec6, 0xeaa127fa, 0xd4ef3085, 0x04881d05, 0xd9d4d039, 0xe6db99e5, 0x1fa27cf8, 0xc4ac5665,
  0xf4292244, 0x432aff97, 0xab9423a7, 0xfc93a039, 0x655b59c3, 0x8f0ccc92, 0xffeff47d, 0x85845dd1,
  0x6fa87e4f, 0xfe2ce6e0, 0xa3014314, 0x4e0811a1, 0xf7537e82, 0xbd3af235, 0x2ad7d2bb, 0xeb86d391]

/-- Rotate a word to the left. -/
def rotateLeft (word amount : UInt32) : UInt32 :=
  (word <<< amount) ||| (word >>> (32 - amount))

/-- One of the 64 steps on a block. -/
def step (block : Array UInt32) (state : State) (index : Nat) : State :=
  let ⟨a, b, c, d⟩ := state
  let (mixed, word) :=
    if index < 16 then ((b &&& c) ||| (~~~b &&& d), index)
    else if index < 32 then ((d &&& b) ||| (~~~d &&& c), (5 * index + 1) % 16)
    else if index < 48 then (b ^^^ c ^^^ d, (3 * index + 5) % 16)
    else (c ^^^ (b ||| ~~~d), 7 * index % 16)
  let sum := a + mixed + constants.getD index 0 + block.getD word 0
  ⟨d, b + rotateLeft sum (rotations.getD index 0), b, c⟩

/-- The state after a block. -/
def update (state : State) (block : Array UInt32) : State :=
  let next := (List.range 64).foldl (step block) state
  ⟨state.a + next.a, state.b + next.b, state.c + next.c, state.d + next.d⟩

/-- The words of a block, the least significant byte of each first. -/
def words (read : Array UInt32) : Bytes → Array UInt32
  | a :: b :: c :: d :: rest =>
      words (read.push
        (a.toUInt32 ||| (b.toUInt32 <<< 8) ||| (c.toUInt32 <<< 16) ||| (d.toUInt32 <<< 24))) rest
  | _ => read

/-- The low bytes of a number, the least significant first. -/
def littleEndian : Nat → Nat → Bytes
  | 0, _ => []
  | width + 1, number => UInt8.ofNat (number % 256) :: littleEndian width (number / 256)

/-- The message with its padding: a one bit, zeros, and the length in bits. -/
def padded (message : Bytes) : Bytes :=
  let zeros := (119 - message.length % 64) % 64
  message ++ (0x80 :: List.replicate zeros 0 ++ littleEndian 8 (8 * message.length))

/-- The state after all blocks of a padded message. -/
def absorb : Nat → State → Bytes → State
  | 0, state, _ => state
  | blocks + 1, state, message =>
      let (block, rest) := message.splitAt 64
      absorb blocks (update state (words #[] block)) rest

/-- The digest of a message, sixteen bytes. -/
def digest (message : Bytes) : Bytes :=
  let content := padded message
  let state := absorb (content.length / 64) initial content
  [state.a, state.b, state.c, state.d].flatMap fun word => littleEndian 4 word.toNat

end Md5
end RouterApi
