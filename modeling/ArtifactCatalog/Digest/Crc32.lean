/-
The cyclic redundancy check of 32 bits that archives use.
-/

namespace ArtifactCatalog.Digest.Crc32

def polynomial : UInt32 := 0xedb88320

def shift (remainder : UInt32) : UInt32 :=
  if remainder &&& 1 = 1 then (remainder >>> 1) ^^^ polynomial else remainder >>> 1

def absorb (remainder : UInt32) (byte : UInt8) : UInt32 :=
  Nat.repeat shift 8 (remainder ^^^ byte.toUInt32)

def check (bytes : List UInt8) : UInt32 := ~~~bytes.foldl absorb 0xffffffff

end ArtifactCatalog.Digest.Crc32
