/-
Numbers as bytes, the lowest byte first.
-/

namespace ArtifactCatalog.Number

/-- The number whose bytes are given, the lowest first. -/
def ofBytes (bytes : List UInt8) : Nat :=
  bytes.foldr (fun byte value => byte.toNat + 256 * value) 0

def toBytes : Nat → Nat → List UInt8
  | 0, _ => []
  | count + 1, n => UInt8.ofNat n :: toBytes count (n / 256)

end ArtifactCatalog.Number
