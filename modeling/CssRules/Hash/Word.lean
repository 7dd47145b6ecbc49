/-!
Words of a byte string: little-endian reading at any offset, the byte order reversed, and the
multiplication whose two halves are folded together. Reading past the end of the bytes gives zeros,
so every definition here is total; the hash never reads there.
-/

namespace CssRules.Hash

/-- The byte at an offset, as a word. -/
def byteAt (bytes : ByteArray) (offset : Nat) : UInt64 :=
  if inside : offset < bytes.size then bytes[offset].toUInt64 else 0

/-- The 32-bit word whose lowest byte stands at the offset. -/
def read32 (bytes : ByteArray) (offset : Nat) : UInt64 :=
  byteAt bytes offset ||| byteAt bytes (offset + 1) <<< 8 |||
    byteAt bytes (offset + 2) <<< 16 ||| byteAt bytes (offset + 3) <<< 24

/-- The 64-bit word whose lowest byte stands at the offset. -/
def read64 (bytes : ByteArray) (offset : Nat) : UInt64 :=
  read32 bytes offset ||| read32 bytes (offset + 4) <<< 32

def lowHalf (word : UInt64) : UInt64 := word &&& 0xFFFFFFFF

def highHalf (word : UInt64) : UInt64 := word >>> 32

def rotateLeft (word : UInt64) (count : UInt64) : UInt64 :=
  word <<< count ||| word >>> (64 - count)

/-- The bytes of a word in the opposite order. -/
def reverseBytes (word : UInt64) : UInt64 :=
  let pairs := (word &&& 0x00FF00FF00FF00FF) <<< 8 ||| (word >>> 8) &&& 0x00FF00FF00FF00FF
  let quads := (pairs &&& 0x0000FFFF0000FFFF) <<< 16 ||| (pairs >>> 16) &&& 0x0000FFFF0000FFFF
  rotateLeft quads 32

/-- The product of two words has 128 bits; its upper and lower half are combined by exclusive or. -/
def foldedProduct (a b : UInt64) : UInt64 :=
  let product := a.toNat * b.toNat
  UInt64.ofNat product ^^^ UInt64.ofNat (product >>> 64)

end CssRules.Hash
