import NetgearSwitch.Lib.PyCodec

/-!
# MD5

The digest `hashlib.md5` computes, over a list of bytes: four words run through 64 steps for
each block of 64 bytes.
-/

namespace Md5

/-- The additive constant of each step. -/
def table : List UInt32 := [
  0xd76aa478, 0xe8c7b756, 0x242070db, 0xc1bdceee, 0xf57c0faf, 0x4787c62a,
  0xa8304613, 0xfd469501, 0x698098d8, 0x8b44f7af, 0xffff5bb1, 0x895cd7be,
  0x6b901122, 0xfd987193, 0xa679438e, 0x49b40821, 0xf61e2562, 0xc040b340,
  0x265e5a51, 0xe9b6c7aa, 0xd62f105d, 0x02441453, 0xd8a1e681, 0xe7d3fbc8,
  0x21e1cde6, 0xc33707d6, 0xf4d50d87, 0x455a14ed, 0xa9e3e905, 0xfcefa3f8,
  0x676f02d9, 0x8d2a4c8a, 0xfffa3942, 0x8771f681, 0x6d9d6122, 0xfde5380c,
  0xa4beea44, 0x4bdecfa9, 0xf6bb4b60, 0xbebfbc70, 0x289b7ec6, 0xeaa127fa,
  0xd4ef3085, 0x04881d05, 0xd9d4d039, 0xe6db99e5, 0x1fa27cf8, 0xc4ac5665,
  0xf4292244, 0x432aff97, 0xab9423a7, 0xfc93a039, 0x655b59c3, 0x8f0ccc92,
  0xffeff47d, 0x85845dd1, 0x6fa87e4f, 0xfe2ce6e0, 0xa3014314, 0x4e0811a1,
  0xf7537e82, 0xbd3af235, 0x2ad7d2bb, 0xeb86d391]

/-- The rotations of each round. -/
def shifts : List (List UInt32) :=
  [[7, 12, 17, 22], [5, 9, 14, 20], [4, 11, 16, 23], [6, 10, 15, 21]]

structure Digest where
  a : UInt32 := 0x67452301
  b : UInt32 := 0xefcdab89
  c : UInt32 := 0x98badcfe
  d : UInt32 := 0x10325476

def rotate (x s : UInt32) : UInt32 := (x <<< s) ||| (x >>> (32 - s))

/-- The mixing function of step `i`, and the word of the block it takes. -/
def mix (i : ℕ) (h : Digest) : UInt32 × ℕ :=
  if i < 16 then ((h.b &&& h.c) ||| (~~~h.b &&& h.d), i)
  else if i < 32 then ((h.d &&& h.b) ||| (~~~h.d &&& h.c), (5 * i + 1) % 16)
  else if i < 48 then (h.b ^^^ h.c ^^^ h.d, (3 * i + 5) % 16)
  else (h.c ^^^ (h.b ||| ~~~h.d), 7 * i % 16)

def step (block : List UInt32) (h : Digest) (i : ℕ) : Digest :=
  let f := (mix i h).1 + h.a + table.getD i 0 + block.getD (mix i h).2 0
  let s := (shifts.getD (i / 16) []).getD (i % 4) 0
  { a := h.d, b := h.b + rotate f s, c := h.b, d := h.c }

def compress (h : Digest) (block : List UInt32) : Digest :=
  let r := (List.range 64).foldl (step block) h
  { a := h.a + r.a, b := h.b + r.b, c := h.c + r.c, d := h.d + r.d }

/-- A number in `n` bytes, the lowest first. -/
def littleEndian : ℕ → ℕ → Bytes
  | 0, _ => []
  | n + 1, v => UInt8.ofNat v :: littleEndian n (v / 256)

def word (b : Bytes) : UInt32 := b.foldr (fun x acc => acc * 256 + x.toUInt32) 0

/-- The message, a one bit, zeroes to the end of a block, and the bit length before it. -/
def padded (m : Bytes) : Bytes :=
  m ++ 0x80 :: List.replicate ((119 - m.length % 64) % 64) 0 ++ littleEndian 8 (8 * m.length)

def digest (m : Bytes) : Digest :=
  ((padded m).toChunks 64).foldl (fun h block => compress h ((block.toChunks 4).map word)) {}

/-- `hexdigest` -/
def hexdigest (m : Bytes) : Text :=
  let h := digest m
  ([h.a, h.b, h.c, h.d].flatMap fun x => littleEndian 4 x.toNat).flatMap fun x =>
    [Nat.digitChar (x.toNat / 16), Nat.digitChar (x.toNat % 16)]

example : hexdigest "abc".toUTF8.toList = "900150983cd24fb0d6963f7d28e17f72".toList ∧
    hexdigest [] = "d41d8cd98f00b204e9800998ecf8427e".toList := by
  decide +kernel

end Md5
