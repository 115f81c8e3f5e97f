/-
Words and bytes. Digest algorithms cut a message into blocks, read each block
as words in one of two byte orders, and write their state as bytes.
-/

import ArtifactCatalog.Number.Bytes

namespace ArtifactCatalog.Digest

/-- Turns the bits of a word toward the high end; `count` lies between 1 and 31. -/
def rotateLeft (word count : UInt32) : UInt32 :=
  (word <<< count) ||| (word >>> (32 - count))

def rotateRight (word count : UInt32) : UInt32 :=
  (word >>> count) ||| (word <<< (32 - count))

def bigEndianBytes (count n : Nat) : List UInt8 := (Number.toBytes count n).reverse

/-- Cuts a list into pieces of a positive size, of which only the last may be shorter. -/
def pieces {α : Type} (size : Nat) : List α → List (List α)
  | [] => []
  | item :: rest => (item :: rest.take (size - 1)) :: pieces size (rest.drop (size - 1))
termination_by items => items.length
decreasing_by
  simp only [List.length_drop, List.length_cons]
  omega

def littleWords (bytes : List UInt8) : Array UInt32 :=
  ((pieces 4 bytes).map fun piece => UInt32.ofNat (Number.ofBytes piece)).toArray

def bigWords (bytes : List UInt8) : Array UInt32 :=
  ((pieces 4 bytes).map fun piece => UInt32.ofNat (Number.ofBytes piece.reverse)).toArray

def bytesOfLittleWords {n : Nat} (words : Vector UInt32 n) : Vector UInt8 (4 * n) :=
  Vector.ofFn fun i => (words[i.val / 4] >>> UInt32.ofNat (8 * (i.val % 4))).toUInt8

def bytesOfBigWords {n : Nat} (words : Vector UInt32 n) : Vector UInt8 (4 * n) :=
  Vector.ofFn fun i => (words[i.val / 4] >>> UInt32.ofNat (24 - 8 * (i.val % 4))).toUInt8

/-- A message with the byte 128, zeros, and its length in bits, so that blocks
of 64 bytes are full. -/
def paddedMessage (lengthBytes : Nat → List UInt8) (message : List UInt8) : List UInt8 :=
  message ++ 0x80 :: List.replicate ((119 - message.length % 64) % 64) 0 ++
    lengthBytes (8 * message.length)

end ArtifactCatalog.Digest
