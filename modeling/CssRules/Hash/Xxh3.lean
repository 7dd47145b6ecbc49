import CssRules.Hash.Word

/-!
The 64-bit XXH3 hash of a byte string with seed zero and the standard secret. Strings of up to 16,
up to 128 and up to 240 bytes have schedules of their own; longer ones go through eight accumulators
in stripes of 64 bytes, which are scrambled after every sixteenth stripe.
-/

namespace CssRules.Hash.Xxh3

def prime32x1 : UInt64 := 0x9E3779B1

def prime32x2 : UInt64 := 0x85EBCA77

def prime32x3 : UInt64 := 0xC2B2AE3D

def prime64x1 : UInt64 := 0x9E3779B185EBCA87

def prime64x2 : UInt64 := 0xC2B2AE3D27D4EB4F

def prime64x3 : UInt64 := 0x165667B19E3779F9

def prime64x4 : UInt64 := 0x85EBCA77C2B2AE63

def prime64x5 : UInt64 := 0x27D4EB2F165667C5

def mixPrime1 : UInt64 := 0x165667919E3779F9

def mixPrime2 : UInt64 := 0x9FB21C651E98DF25

/-- The standard secret: 192 bytes that the input is mixed with. -/
def secret : ByteArray := ⟨#[
  0xb8, 0xfe, 0x6c, 0x39, 0x23, 0xa4, 0x4b, 0xbe, 0x7c, 0x01, 0x81, 0x2c, 0xf7, 0x21, 0xad, 0x1c,
  0xde, 0xd4, 0x6d, 0xe9, 0x83, 0x90, 0x97, 0xdb, 0x72, 0x40, 0xa4, 0xa4, 0xb7, 0xb3, 0x67, 0x1f,
  0xcb, 0x79, 0xe6, 0x4e, 0xcc, 0xc0, 0xe5, 0x78, 0x82, 0x5a, 0xd0, 0x7d, 0xcc, 0xff, 0x72, 0x21,
  0xb8, 0x08, 0x46, 0x74, 0xf7, 0x43, 0x24, 0x8e, 0xe0, 0x35, 0x90, 0xe6, 0x81, 0x3a, 0x26, 0x4c,
  0x3c, 0x28, 0x52, 0xbb, 0x91, 0xc3, 0x00, 0xcb, 0x88, 0xd0, 0x65, 0x8b, 0x1b, 0x53, 0x2e, 0xa3,
  0x71, 0x64, 0x48, 0x97, 0xa2, 0x0d, 0xf9, 0x4e, 0x38, 0x19, 0xef, 0x46, 0xa9, 0xde, 0xac, 0xd8,
  0xa8, 0xfa, 0x76, 0x3f, 0xe3, 0x9c, 0x34, 0x3f, 0xf9, 0xdc, 0xbb, 0xc7, 0xc7, 0x0b, 0x4f, 0x1d,
  0x8a, 0x51, 0xe0, 0x4b, 0xcd, 0xb4, 0x59, 0x31, 0xc8, 0x9f, 0x7e, 0xc9, 0xd9, 0x78, 0x73, 0x64,
  0xea, 0xc5, 0xac, 0x83, 0x34, 0xd3, 0xeb, 0xc3, 0xc5, 0x81, 0xa0, 0xff, 0xfa, 0x13, 0x63, 0xeb,
  0x17, 0x0d, 0xdd, 0x51, 0xb7, 0xf0, 0xda, 0x49, 0xd3, 0x16, 0x55, 0x26, 0x29, 0xd4, 0x68, 0x9e,
  0x2b, 0x16, 0xbe, 0x58, 0x7d, 0x47, 0xa1, 0xfc, 0x8f, 0xf8, 0xb8, 0xd1, 0x7a, 0xd0, 0x31, 0xce,
  0x45, 0xcb, 0x3a, 0x8f, 0x95, 0x16, 0x04, 0x28, 0xaf, 0xd7, 0xfb, 0xca, 0xbb, 0x4b, 0x40, 0x7e]⟩

/-- Last mixing step of every string of at least nine bytes. -/
def avalanche (word : UInt64) : UInt64 :=
  let word := word ^^^ word >>> 37
  let word := word * mixPrime1
  word ^^^ word >>> 32

/-- Last mixing step of strings of at most three bytes. -/
def shortAvalanche (word : UInt64) : UInt64 :=
  let word := word ^^^ word >>> 33
  let word := word * prime64x2
  let word := word ^^^ word >>> 29
  let word := word * prime64x3
  word ^^^ word >>> 32

/-- Last mixing step of strings of four to eight bytes. -/
def rotatedAvalanche (word length : UInt64) : UInt64 :=
  let word := word ^^^ rotateLeft word 49 ^^^ rotateLeft word 24
  let word := word * mixPrime2
  let word := word ^^^ (word >>> 35 + length)
  let word := word * mixPrime2
  word ^^^ word >>> 28

/-- The hash of the empty string. -/
def ofEmpty : UInt64 := shortAvalanche (read64 secret 56 ^^^ read64 secret 64)

/-- The hash of one to three bytes: the first, middle and last byte and the length make one word. -/
def ofUpTo3 (input : ByteArray) : UInt64 :=
  let length := input.size
  let combined := byteAt input 0 <<< 16 ||| byteAt input (length / 2) <<< 24 |||
    byteAt input (length - 1) ||| UInt64.ofNat length <<< 8
  shortAvalanche (combined ^^^ (read32 secret 0 ^^^ read32 secret 4))

/-- The hash of four to eight bytes, read as two words that may overlap. -/
def ofUpTo8 (input : ByteArray) : UInt64 :=
  let length := input.size
  let combined := read32 input (length - 4) + read32 input 0 <<< 32
  rotatedAvalanche (combined ^^^ (read64 secret 8 ^^^ read64 secret 16)) (UInt64.ofNat length)

/-- The hash of nine to sixteen bytes, read as two words that may overlap. -/
def ofUpTo16 (input : ByteArray) : UInt64 :=
  let length := input.size
  let low := read64 input 0 ^^^ (read64 secret 24 ^^^ read64 secret 32)
  let high := read64 input (length - 8) ^^^ (read64 secret 40 ^^^ read64 secret 48)
  avalanche (UInt64.ofNat length + reverseBytes low + high + foldedProduct low high)

/-- Sixteen bytes of the input mixed with sixteen bytes of the secret. -/
def mix16 (input : ByteArray) (offset secretOffset : Nat) : UInt64 :=
  foldedProduct (read64 input offset ^^^ read64 secret secretOffset)
    (read64 input (offset + 8) ^^^ read64 secret (secretOffset + 8))

/-- The sum of the mixed words at the given pairs of offsets into input and secret. -/
def mixSum (input : ByteArray) (offsets : List (Nat × Nat)) : UInt64 :=
  offsets.foldl (fun sum pair => sum + mix16 input pair.1 pair.2) 0

/-- The hash of 17 to 128 bytes: one to four pieces of sixteen bytes from either end. -/
def ofUpTo128 (input : ByteArray) : UInt64 :=
  let length := input.size
  let ends := (List.range ((length - 1) / 32 + 1)).flatMap fun i =>
    [(16 * i, 32 * i), (length - 16 * (i + 1), 32 * i + 16)]
  avalanche (UInt64.ofNat length * prime64x1 + mixSum input ends)

/-- The hash of 129 to 240 bytes: eight pieces, an avalanche, then the other pieces and the last
sixteen bytes. -/
def ofUpTo240 (input : ByteArray) : UInt64 :=
  let length := input.size
  let first := (List.range 8).map fun i => (16 * i, 16 * i)
  let others := (List.range (length / 16 - 8)).map fun i => (16 * (i + 8), 16 * i + 3)
  let start := avalanche (UInt64.ofNat length * prime64x1 + mixSum input first)
  avalanche (start + mixSum input others + mix16 input (length - 16) 119)

/-- The eight accumulators of a long string. -/
abbrev Lanes := Vector UInt64 8

def Lanes.initial : Lanes :=
  #v[prime32x3, prime64x1, prime64x2, prime64x3, prime64x4, prime32x2, prime64x5, prime32x1]

/-- Adds 64 bytes of the input: each word goes to the neighbouring lane as it is, and the product of
the halves of its keyed value to its own lane. -/
def Lanes.absorb (lanes : Lanes) (input : ByteArray) (offset secretOffset : Nat) : Lanes :=
  let words : Lanes := .ofFn fun i => read64 input (offset + 8 * i)
  .ofFn fun i =>
    let keyed := words[i] ^^^ read64 secret (secretOffset + 8 * i)
    let neighbour : Fin 8 := i ^^^ 1
    lanes[i] + words[neighbour] + lowHalf keyed * highHalf keyed

/-- Mixes every lane with the end of the secret. -/
def Lanes.scramble (lanes : Lanes) : Lanes :=
  .ofFn fun i =>
    let lane := lanes[i]
    (lane ^^^ lane >>> 47 ^^^ read64 secret (128 + 8 * i)) * prime32x1

/-- Absorbs the stripe of a given number; the sixteenth stripe of a block ends with a scramble. -/
def Lanes.stripe (input : ByteArray) (lanes : Lanes) (number : Nat) : Lanes :=
  let absorbed := lanes.absorb input (64 * number) (8 * (number % 16))
  if number % 16 = 15 then absorbed.scramble else absorbed

/-- The lanes folded in pairs with the secret. -/
def Lanes.merge (lanes : Lanes) (start : UInt64) : UInt64 :=
  let pair (i j : Fin 8) := foldedProduct (lanes[i] ^^^ read64 secret (11 + 8 * i))
    (lanes[j] ^^^ read64 secret (11 + 8 * j))
  avalanche (start + pair 0 1 + pair 2 3 + pair 4 5 + pair 6 7)

/-- The hash of more than 240 bytes: all whole stripes before the last byte, then the last 64 bytes. -/
def ofLong (input : ByteArray) : UInt64 :=
  let length := input.size
  let lanes := (List.range ((length - 1) / 64)).foldl (Lanes.stripe input) Lanes.initial
  (lanes.absorb input (length - 64) 121).merge (UInt64.ofNat length * prime64x1)

/-- The 64-bit hash of a byte string. -/
def hash (input : ByteArray) : UInt64 :=
  if input.size = 0 then ofEmpty
  else if input.size ≤ 3 then ofUpTo3 input
  else if input.size ≤ 8 then ofUpTo8 input
  else if input.size ≤ 16 then ofUpTo16 input
  else if input.size ≤ 128 then ofUpTo128 input
  else if input.size ≤ 240 then ofUpTo240 input
  else ofLong input

end CssRules.Hash.Xxh3
