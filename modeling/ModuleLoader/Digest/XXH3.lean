import ModuleLoader.Bytes

/-!
# The XXH3 hash, 128 bits wide

XXH3 with seed zero and its standard secret. A message falls into one of six classes by its length
– empty, up to 3, 8, 16, 128 and 240 bytes, and longer – and each class has a formula of its own.
All formulas share the pieces at the top of this module: words read lowest byte first, a full
64 by 64 bit product, and two finishing permutations ("avalanches") of a word.

Messages of more than 240 bytes are cut into stripes of 64 bytes. Eight accumulators absorb one
stripe after the other, each stripe against a window of the secret that moves on by eight bytes;
after sixteen stripes the accumulators are scrambled and the window starts over. The last 64 bytes
of the message are absorbed once more at the end, overlapping the last whole stripe if need be.
-/

namespace ModuleLoader

-- Powers are the ones that come with the numbers, whatever algebra is imported elsewhere.
attribute [local instance (high)] instPowNat

namespace XXH3

/-- A pair of words, the two halves of a 128-bit value. -/
structure Wide where
  /-- The low half. -/
  low : UInt64
  /-- The high half. -/
  high : UInt64
  deriving DecidableEq

/-! ## Words -/

/-- The 32-bit word at the start of a byte string, widened. -/
def word32 (bytes : Bytes) : UInt64 := UInt64.ofNat (Bytes.toNatLE (bytes.take 4))

/-- The 64-bit word at the start of a byte string. -/
def word64 (bytes : Bytes) : UInt64 :=
  match bytes with
  | a :: b :: c :: d :: e :: f :: g :: h :: _ =>
    a.toUInt64 ||| (b.toUInt64 <<< 8) ||| (c.toUInt64 <<< 16) ||| (d.toUInt64 <<< 24) |||
      (e.toUInt64 <<< 32) ||| (f.toUInt64 <<< 40) ||| (g.toUInt64 <<< 48) ||| (h.toUInt64 <<< 56)
  | short => UInt64.ofNat (Bytes.toNatLE short)

/-- The low 32 bits of a word. -/
def low32 (x : UInt64) : UInt64 := x &&& 0xFFFFFFFF

/-- A 32-bit value with its four bytes reversed. -/
def swap32 (x : UInt64) : UInt64 :=
  let byte (place : UInt64) : UInt64 := (x >>> place) &&& 0xFF
  (byte 0 <<< 24) ||| (byte 8 <<< 16) ||| (byte 16 <<< 8) ||| byte 24

/-- A word with its eight bytes reversed. -/
def swap64 (x : UInt64) : UInt64 :=
  (swap32 (low32 x) <<< 32) ||| swap32 (x >>> 32)

/-- A 32-bit value rotated left by thirteen places. -/
def rotate13 (x : UInt64) : UInt64 := low32 (x <<< 13) ||| (x >>> 19)

/-- The full product of two words. -/
def product (x y : UInt64) : Wide :=
  let p := x.toNat * y.toNat
  ⟨UInt64.ofNat p, UInt64.ofNat (p / 2 ^ (64 : Nat))⟩

/-- The two halves of a full product, combined by exclusive or. -/
def fold (x y : UInt64) : UInt64 :=
  let p := product x y
  p.low ^^^ p.high

/-!
## Constants

Three primes of 32 and five of 64 bits, by which words are multiplied, and the secret.
-/

def prime32₁ : UInt64 := 0x9E3779B1
def prime32₂ : UInt64 := 0x85EBCA77
def prime32₃ : UInt64 := 0xC2B2AE3D
def prime64₁ : UInt64 := 0x9E3779B185EBCA87
def prime64₂ : UInt64 := 0xC2B2AE3D27D4EB4F
def prime64₃ : UInt64 := 0x165667B19E3779F9
def prime64₄ : UInt64 := 0x85EBCA77C2B2AE63
def prime64₅ : UInt64 := 0x27D4EB2F165667C5

/-- The standard secret: 192 bytes against which the message is keyed. -/
def secret : Bytes := [
  0xb8, 0xfe, 0x6c, 0x39, 0x23, 0xa4, 0x4b, 0xbe, 0x7c, 0x01, 0x81, 0x2c, 0xf7, 0x21, 0xad, 0x1c,
  0xde, 0xd4, 0x6d, 0xe9, 0x83, 0x90, 0x97, 0xdb, 0x72, 0x40, 0xa4, 0xa4, 0xb7, 0xb3, 0x67, 0x1f,
  0xcb, 0x79, 0xe6, 0x4e, 0xcc, 0xc0, 0xe5, 0x78, 0x82, 0x5a, 0xd0, 0x7d, 0xcc, 0xff, 0x72, 0x21,
  0xb8, 0x08, 0x46, 0x74, 0xf7, 0x43, 0x24, 0x8e, 0xe0, 0x35, 0x90, 0xe6, 0x81, 0x3a, 0x26, 0x4c,
  0x3c, 0x28, 0x52, 0xbb, 0x91, 0xc3, 0x00, 0xcb, 0x88, 0xd0, 0x65, 0x8b, 0x1b, 0x53, 0x2e, 0xa3,
  0x71, 0x64, 0x48, 0x97, 0xa2, 0x0d, 0xf9, 0x4e, 0x38, 0x19, 0xef, 0x46, 0xa9, 0xde, 0xac, 0xd8,
  0xa8, 0xfa, 0x76, 0x3f, 0xe3, 0x9c, 0x34, 0x3f, 0xf9, 0xdc, 0xbb, 0xc7, 0xc7, 0x0b, 0x4f, 0x1d,
  0x8a, 0x51, 0xe0, 0x4b, 0xcd, 0xb4, 0x59, 0x31, 0xc8, 0x9f, 0x7e, 0xc9, 0xd9, 0x78, 0x73, 0x64,
  0xea, 0xc5, 0xac, 0x83, 0x34, 0xd3, 0xeb, 0xc3, 0xc5, 0x81, 0xa0, 0xff, 0xfa, 0x13, 0x63, 0xeb,
  0x17, 0x0d, 0xdd, 0x51, 0xb7, 0xf0, 0xda, 0x49, 0xd3, 0x16, 0x55, 0x26, 0x29, 0xd4, 0x68, 0x9e,
  0x2b, 0x16, 0xbe, 0x58, 0x7d, 0x47, 0xa1, 0xfc, 0x8f, 0xf8, 0xb8, 0xd1, 0x7a, 0xd0, 0x31, 0xce,
  0x45, 0xcb, 0x3a, 0x8f, 0x95, 0x16, 0x04, 0x28, 0xaf, 0xd7, 0xfb, 0xca, 0xbb, 0x4b, 0x40, 0x7e]

/-- The word of the secret at an offset. -/
def key (offset : Nat) : UInt64 := word64 (secret.drop offset)

/-! ## Finishing permutations -/

/-- The finishing permutation of the longer classes. -/
def avalanche (h : UInt64) : UInt64 :=
  let h := h ^^^ (h >>> 37)
  let h := h * 0x165667919E3779F9
  h ^^^ (h >>> 32)

/-- The finishing permutation of the shortest classes. -/
def avalancheShort (h : UInt64) : UInt64 :=
  let h := h ^^^ (h >>> 33)
  let h := h * prime64₂
  let h := h ^^^ (h >>> 29)
  let h := h * prime64₃
  h ^^^ (h >>> 32)

/-! ## Messages of at most sixteen bytes -/

/-- The hash of the empty message. -/
def hashEmpty : Wide :=
  ⟨avalancheShort (key 64 ^^^ key 72), avalancheShort (key 80 ^^^ key 88)⟩

/-- The hash of a message of one to three bytes, read through its first, middle and last byte. -/
def hash1to3 (data : Bytes) : Wide :=
  let length := data.length
  let byte (i : Nat) : UInt64 := (data.getD i 0).toUInt64
  let combined := (byte 0 <<< 16) ||| (byte (length / 2) <<< 24) ||| byte (length - 1) |||
    (UInt64.ofNat length <<< 8)
  let flipLow := word32 secret ^^^ word32 (secret.drop 4)
  let flipHigh := word32 (secret.drop 8) ^^^ word32 (secret.drop 12)
  ⟨avalancheShort (combined ^^^ flipLow), avalancheShort (rotate13 (swap32 combined) ^^^ flipHigh)⟩

/-- The hash of a message of four to eight bytes, read through its first and last four. -/
def hash4to8 (data : Bytes) : Wide :=
  let length := data.length
  let input := word32 data + (word32 (data.drop (length - 4)) <<< 32)
  let keyed := input ^^^ (key 16 ^^^ key 24)
  let p := product keyed (prime64₁ + (UInt64.ofNat length <<< 2))
  let high := p.high + (p.low <<< 1)
  let low := p.low ^^^ (high >>> 3)
  let low := low ^^^ (low >>> 35)
  let low := low * 0x9FB21C651E98DF25
  let low := low ^^^ (low >>> 28)
  ⟨low, avalanche high⟩

/-- The hash of a message of nine to sixteen bytes, read through its first and last eight. -/
def hash9to16 (data : Bytes) : Wide :=
  let length := data.length
  let first := word64 data
  let last := word64 (data.drop (length - 8))
  let p := product (first ^^^ last ^^^ (key 32 ^^^ key 40)) prime64₁
  let low := p.low + (UInt64.ofNat (length - 1) <<< 54)
  let last := last ^^^ (key 48 ^^^ key 56)
  let high := p.high + (last + low32 last * (prime32₂ - 1))
  let low := low ^^^ swap64 high
  let q := product low prime64₂
  ⟨avalanche q.low, avalanche (q.high + high * prime64₂)⟩

/-! ## Messages of 17 to 240 bytes -/

/-- Sixteen bytes of message against sixteen bytes of secret. -/
def mix (data : Bytes) (offset : Nat) : UInt64 :=
  fold (word64 data ^^^ key offset) (word64 (data.drop 8) ^^^ key (offset + 8))

/-- Two groups of sixteen bytes enter the accumulator against 32 bytes of secret. -/
def mixPair (acc : Wide) (left right : Bytes) (offset : Nat) : Wide :=
  ⟨(acc.low + mix left offset) ^^^ (word64 right + word64 (right.drop 8)),
    (acc.high + mix right (offset + 16)) ^^^ (word64 left + word64 (left.drop 8))⟩

/-- The hash that an accumulator stands for at the end of a message of the given length. -/
def finish (acc : Wide) (length : Nat) : Wide :=
  ⟨avalanche (acc.low + acc.high),
    0 - avalanche (acc.low * prime64₁ + acc.high * prime64₄ + UInt64.ofNat length * prime64₂)⟩

/-- The hash of a message of 17 to 128 bytes: pairs of groups from both ends, innermost first. -/
def hash17to128 (data : Bytes) : Wide :=
  let length := data.length
  let pairs := (length - 1) / 32 + 1
  let step (acc : Wide) (i : Nat) : Wide :=
    mixPair acc (data.drop (16 * i)) (data.drop (length - 16 * (i + 1))) (32 * i)
  finish ((List.range pairs).reverse.foldl step ⟨UInt64.ofNat length * prime64₁, 0⟩) length

/-- The hash of a message of 129 to 240 bytes: four pairs of neighbouring groups, a permutation,
the remaining pairs and the last 32 bytes. -/
def hash129to240 (data : Bytes) : Wide :=
  let length := data.length
  let group (i : Nat) : Bytes := data.drop (16 * i)
  let early (acc : Wide) (i : Nat) : Wide :=
    mixPair acc (group (2 * i)) (group (2 * i + 1)) (32 * i)
  let late (acc : Wide) (i : Nat) : Wide :=
    mixPair acc (group (2 * (i + 4))) (group (2 * (i + 4) + 1)) (32 * i + 3)
  let acc := (List.range 4).foldl early ⟨UInt64.ofNat length * prime64₁, 0⟩
  let acc : Wide := ⟨avalanche acc.low, avalanche acc.high⟩
  let acc := (List.range (length / 32 - 4)).foldl late acc
  finish (mixPair acc (data.drop (length - 16)) (data.drop (length - 32)) 103) length

/-! ## Longer messages -/

/-- The first `count` words of a byte string. -/
def words : (count : Nat) → Bytes → List UInt64
  | 0, _ => []
  | count + 1, bytes => word64 bytes :: words count (bytes.drop 8)

/-- A list with each two neighbours exchanged. -/
def swapPairs : List UInt64 → List UInt64
  | a :: b :: rest => b :: a :: swapPairs rest
  | rest => rest

/-- The accumulators after one stripe, keyed at an offset of the secret. -/
def absorb (accs : List UInt64) (stripe : Bytes) (offset : Nat) : List UInt64 :=
  let lanes := words 8 stripe
  let keyed := List.zipWith (· ^^^ ·) lanes (words 8 (secret.drop offset))
  let products := keyed.map fun k => low32 k * (k >>> 32)
  List.zipWith (· + ·) (List.zipWith (· + ·) accs (swapPairs lanes)) products

/-- The accumulators after a whole block of stripes. -/
def scramble (accs : List UInt64) : List UInt64 :=
  let step (acc k : UInt64) : UInt64 := ((acc ^^^ (acc >>> 47)) ^^^ k) * prime32₁
  List.zipWith step accs (words 8 (secret.drop 128))

/-- The accumulators after `count` stripes, the first of which is number `index`. -/
def absorbAll : (count index : Nat) → List UInt64 → Bytes → List UInt64
  | 0, _, accs, _ => accs
  | count + 1, index, accs, data =>
    let accs := absorb accs data (8 * (index % 16))
    let accs := if index % 16 = 15 then scramble accs else accs
    absorbAll count (index + 1) accs (data.drop 64)

/-- The sum of the folded products of keyed pairs of accumulators. -/
def foldPairs : List UInt64 → (offset : Nat) → UInt64
  | a :: b :: rest, offset =>
    fold (a ^^^ key offset) (b ^^^ key (offset + 8)) + foldPairs rest (offset + 16)
  | _, _ => 0

/-- The hash of a message of more than 240 bytes. -/
def hashLong (data : Bytes) : Wide :=
  let length := data.length
  let start : List UInt64 :=
    [prime32₃, prime64₁, prime64₂, prime64₃, prime64₄, prime32₂, prime64₅, prime32₁]
  let accs := absorbAll ((length - 1) / 64) 0 start data
  let accs := absorb accs (data.drop (length - 64)) 121
  ⟨avalanche (UInt64.ofNat length * prime64₁ + foldPairs accs 11),
    avalanche (~~~(UInt64.ofNat length * prime64₂) + foldPairs accs 117)⟩

/-- The 128-bit hash of a message. -/
def hash (data : Bytes) : Wide :=
  let length := data.length
  if length = 0 then hashEmpty
  else if length ≤ 3 then hash1to3 data
  else if length ≤ 8 then hash4to8 data
  else if length ≤ 16 then hash9to16 data
  else if length ≤ 128 then hash17to128 data
  else if length ≤ 240 then hash129to240 data
  else hashLong data

end XXH3

end ModuleLoader
