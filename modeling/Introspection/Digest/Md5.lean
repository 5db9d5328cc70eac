import Introspection.Text.Hex

/-!
# Message digests

The digest of bytes by the algorithm MD5: the message is filled up to blocks of sixteen words, and
every block is mixed into a state of four words in sixty-four steps.

* `Md5.digest`: the sixteen bytes of the digest;
* `Md5.hex`: the digest in hexadecimal digits;
* `Md5.ofText`: the digest of a text in UTF-8.
-/

namespace Introspection.Md5

/-- The four words that blocks are mixed into. -/
structure State where
  a : UInt32
  b : UInt32
  c : UInt32
  d : UInt32

/-- The state before the first block. -/
def start : State := ⟨0x67452301, 0xefcdab89, 0x98badcfe, 0x10325476⟩

/-- The constants of the steps: the sines of 1 to 64 without sign, as fractions of two to the
thirty-second. -/
def constants : List UInt32 :=
  [0xd76aa478, 0xe8c7b756, 0x242070db, 0xc1bdceee, 0xf57c0faf, 0x4787c62a,
   0xa8304613, 0xfd469501, 0x698098d8, 0x8b44f7af, 0xffff5bb1, 0x895cd7be,
   0x6b901122, 0xfd987193, 0xa679438e, 0x49b40821, 0xf61e2562, 0xc040b340,
   0x265e5a51, 0xe9b6c7aa, 0xd62f105d, 0x02441453, 0xd8a1e681, 0xe7d3fbc8,
   0x21e1cde6, 0xc33707d6, 0xf4d50d87, 0x455a14ed, 0xa9e3e905, 0xfcefa3f8,
   0x676f02d9, 0x8d2a4c8a, 0xfffa3942, 0x8771f681, 0x6d9d6122, 0xfde5380c,
   0xa4beea44, 0x4bdecfa9, 0xf6bb4b60, 0xbebfbc70, 0x289b7ec6, 0xeaa127fa,
   0xd4ef3085, 0x04881d05, 0xd9d4d039, 0xe6db99e5, 0x1fa27cf8, 0xc4ac5665,
   0xf4292244, 0x432aff97, 0xab9423a7, 0xfc93a039, 0x655b59c3, 0x8f0ccc92,
   0xffeff47d, 0x85845dd1, 0x6fa87e4f, 0xfe2ce6e0, 0xa3014314, 0x4e0811a1,
   0xf7537e82, 0xbd3af235, 0x2ad7d2bb, 0xeb86d391]

/-- The amounts that the four kinds of steps rotate by, in turn. -/
def shifts : List (List UInt32) :=
  [[7, 12, 17, 22], [5, 9, 14, 20], [4, 11, 16, 23], [6, 10, 15, 21]]

def rotate (x n : UInt32) : UInt32 := (x <<< n) ||| (x >>> (32 - n))

/-- How the words of the state are combined in a step, and which word of the block it takes. -/
def mix (s : State) (i : Nat) : UInt32 × Nat :=
  match i / 16 with
  | 0 => ((s.b &&& s.c) ||| (~~~s.b &&& s.d), i)
  | 1 => ((s.d &&& s.b) ||| (~~~s.d &&& s.c), (5 * i + 1) % 16)
  | 2 => (s.b ^^^ s.c ^^^ s.d, (3 * i + 5) % 16)
  | _ => (s.c ^^^ (s.b ||| ~~~s.d), (7 * i) % 16)

/-- One step with its constant. -/
def step (words : List UInt32) (s : State) (k : UInt32) (i : Nat) : State :=
  let (f, j) := mix s i
  let shift := (shifts.getD (i / 16) []).getD (i % 4) 0
  ⟨s.d, s.b + rotate (s.a + f + k + words.getD j 0) shift, s.b, s.c⟩

/-- Mixes a block into a state. -/
def block (s : State) (words : List UInt32) : State :=
  let t := constants.zipIdx.foldl (fun t (k, i) => step words t k i) s
  ⟨s.a + t.a, s.b + t.b, s.c + t.c, s.d + t.d⟩

/-- The words of bytes, four to a word, the lowest byte first. -/
def words : List UInt8 → List UInt32
  | a :: b :: c :: d :: rest =>
    (a.toUInt32 ||| (b.toUInt32 <<< 8) ||| (c.toUInt32 <<< 16) ||| (d.toUInt32 <<< 24)) ::
      words rest
  | _ => []

/-- The lowest bytes of a number, the lowest first. -/
def bytes : Nat → Nat → List UInt8
  | 0, _ => []
  | count + 1, n => UInt8.ofNat n :: bytes count (n / 256)

/-- A message filled up to full blocks: a bit that marks its end, zeros, and its length in bits. -/
def filled (message : List UInt8) : List UInt8 :=
  let n := message.length
  message ++ 0x80 :: (List.replicate ((119 - n % 64) % 64) 0 ++ bytes 8 (8 * n))

/-- Mixes the blocks of words into a state, sixteen words at a time. -/
def blocks : Nat → State → List UInt32 → State
  | 0, s, _ => s
  | count + 1, s, ws => blocks count (block s (ws.take 16)) (ws.drop 16)

def digest (message : List UInt8) : List UInt8 :=
  let ws := words (filled message)
  let s := blocks (ws.length / 16) start ws
  [s.a, s.b, s.c, s.d].flatMap fun w => bytes 4 w.toNat

/-- A byte in two hexadecimal digits. -/
def hexByte (b : UInt8) : List Char := Text.hexDigits 2 b.toNat

/-- The digest of a message in hexadecimal digits. -/
def hex (message : List UInt8) : String := String.ofList ((digest message).flatMap hexByte)

/-- The digest of a text in UTF-8. -/
def ofText (text : String) : String := hex text.toUTF8.toList

end Introspection.Md5
