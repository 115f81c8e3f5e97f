/-
The bytes of an archive: numbers at a place, and the places of signatures.
-/

import ArtifactCatalog.Number.Bytes

namespace ArtifactCatalog.Archive

abbrev Image := Array UInt8

namespace Image

def slice? (image : Image) (place count : Nat) : Option (List UInt8) :=
  if place + count ≤ image.size then some (image.extract place (place + count)).toList else none

def number? (image : Image) (place count : Nat) : Option Nat :=
  (image.slice? place count).map Number.ofBytes

def hasSignature (image : Image) (signature : List UInt8) (place : Nat) : Bool :=
  image.slice? place signature.length == some signature

/-- The places of a signature that ends before `limit`, from `first` on. -/
def signaturePlaces (image : Image) (signature : List UInt8) (first limit : Nat) : List Nat :=
  (List.range' first (limit - first)).filter fun place =>
    image[place]? == signature.head? && place + signature.length ≤ limit &&
      image.hasSignature signature place

end Image

def localSignature : List UInt8 := [0x50, 0x4b, 0x03, 0x04]

def entrySignature : List UInt8 := [0x50, 0x4b, 0x01, 0x02]

def endSignature : List UInt8 := [0x50, 0x4b, 0x05, 0x06]

def wideEndSignature : List UInt8 := [0x50, 0x4b, 0x06, 0x06]

def locatorSignature : List UInt8 := [0x50, 0x4b, 0x06, 0x07]

end ArtifactCatalog.Archive
