import UserProvision.Bytes
import UserProvision.Text.Hex

/-!
# The MD5 digest

The digest of a message in sixteen bytes: the message is filled up to whole blocks of 64 bytes, and
each block is stirred into four words by 64 steps.
-/

namespace UserProvision.Digest

/-- The four words that the blocks are stirred into. -/
structure State where
  a : UInt32
  b : UInt32
  c : UInt32
  d : UInt32
  deriving DecidableEq, Repr

def initial : State := ⟨0x67452301, 0xefcdab89, 0x98badcfe, 0x10325476⟩

/-- By how many bits each of the four steps of a round turns a word. -/
def turns : List (List UInt32) :=
  [[7, 12, 17, 22], [5, 9, 14, 20], [4, 11, 16, 23], [6, 10, 15, 21]]

/-- The word added in each step: the leading 32 bits of the fraction of `|sin (i + 1)|`. -/
def addends : List UInt32 := [
  0xd76aa478, 0xe8c7b756, 0x242070db, 0xc1bdceee, 0xf57c0faf, 0x4787c62a, 0xa8304613, 0xfd469501,
  0x698098d8, 0x8b44f7af, 0xffff5bb1, 0x895cd7be, 0x6b901122, 0xfd987193, 0xa679438e, 0x49b40821,
  0xf61e2562, 0xc040b340, 0x265e5a51, 0xe9b6c7aa, 0xd62f105d, 0x02441453, 0xd8a1e681, 0xe7d3fbc8,
  0x21e1cde6, 0xc33707d6, 0xf4d50d87, 0x455a14ed, 0xa9e3e905, 0xfcefa3f8, 0x676f02d9, 0x8d2a4c8a,
  0xfffa3942, 0x8771f681, 0x6d9d6122, 0xfde5380c, 0xa4beea44, 0x4bdecfa9, 0xf6bb4b60, 0xbebfbc70,
  0x289b7ec6, 0xeaa127fa, 0xd4ef3085, 0x04881d05, 0xd9d4d039, 0xe6db99e5, 0x1fa27cf8, 0xc4ac5665,
  0xf4292244, 0x432aff97, 0xab9423a7, 0xfc93a039, 0x655b59c3, 0x8f0ccc92, 0xffeff47d, 0x85845dd1,
  0x6fa87e4f, 0xfe2ce6e0, 0xa3014314, 0x4e0811a1, 0xf7537e82, 0xbd3af235, 0x2ad7d2bb, 0xeb86d391]

/-- How the words of a step are mixed, and which word of the block joins them. -/
def mix (step : Nat) (s : State) : UInt32 × Nat :=
  match step / 16 with
  | 0 => ((s.b &&& s.c) ||| (~~~s.b &&& s.d), step)
  | 1 => ((s.d &&& s.b) ||| (~~~s.d &&& s.c), (5 * step + 1) % 16)
  | 2 => (s.b ^^^ s.c ^^^ s.d, (3 * step + 5) % 16)
  | _ => (s.c ^^^ (s.b ||| ~~~s.d), 7 * step % 16)

def rotate (x turn : UInt32) : UInt32 := (x <<< turn) ||| (x >>> (32 - turn))

/-- One of the 64 steps of a block. -/
def step (block : List UInt32) (s : State) (i : Nat) : State :=
  let (mixed, index) := mix i s
  let turn := (turns.getD (i / 16) []).getD (i % 4) 0
  let sum := s.a + mixed + addends.getD i 0 + block.getD index 0
  ⟨s.d, s.b + rotate sum turn, s.b, s.c⟩

/-- Stirs one block of sixteen words into the state. -/
def stir (s : State) (block : List UInt32) : State :=
  let t := (List.range 64).foldl (step block) s
  ⟨s.a + t.a, s.b + t.b, s.c + t.c, s.d + t.d⟩

/-- A message with the mark for its end, the fill and its length in bits. -/
def filled (message : Bytes) : Bytes :=
  message ++ 0x80 :: List.replicate ((119 - message.length % 64) % 64) 0 ++
    Bytes.littleEndian 8 (8 * message.length)

/-- Cuts a list into pieces of `size`; what is left at the end is dropped. -/
def pieces {α : Type} (size : Nat) : (count : Nat) → List α → List (List α)
  | 0, _ => []
  | count + 1, items => items.take size :: pieces size count (items.drop size)

/-- The words of a filled message, by blocks. -/
def blocks (bytes : Bytes) : List (List UInt32) :=
  (pieces 64 (bytes.length / 64) bytes).map fun block =>
    (pieces 4 16 block).map fun word => UInt32.ofNat (Bytes.ofLittleEndian word)

/-- The words of a state as bytes. -/
def State.bytes (s : State) : Bytes :=
  [s.a, s.b, s.c, s.d].flatMap fun word => Bytes.littleEndian 4 word.toNat

/-- The digest of a message. -/
def md5 (message : Bytes) : Bytes := ((blocks (filled message)).foldl stir initial).bytes

theorem length_md5 (message : Bytes) : (md5 message).length = 16 := by
  simp [md5, State.bytes]

end UserProvision.Digest
