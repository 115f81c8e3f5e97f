/-
Errors of the domain itself: faulty coordinates, checksums, algorithm names,
values and documents.
-/

namespace ArtifactCatalog

inductive DomainError where
  | invalidCoordinate (detail : String)
  | invalidChecksum (detail : String)
  | unsupportedAlgorithm (name : String)
  | invalidValue (detail : String)
  | serialization (detail : String)
deriving DecidableEq, Repr

def DomainError.detail : DomainError → String
  | invalidCoordinate detail | invalidChecksum detail | unsupportedAlgorithm detail
  | invalidValue detail | serialization detail => detail

def DomainError.heading : DomainError → String
  | invalidCoordinate _ => "Invalid coordinate"
  | invalidChecksum _ => "Invalid checksum"
  | unsupportedAlgorithm _ => "Unsupported hash algorithm"
  | invalidValue _ => "Validation error"
  | serialization _ => "Serialization error"

def DomainError.message (error : DomainError) : String :=
  error.heading ++ ": " ++ error.detail

end ArtifactCatalog
