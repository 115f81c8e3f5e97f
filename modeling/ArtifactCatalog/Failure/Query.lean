/-
Errors of queries, as callers see them.
-/

import ArtifactCatalog.Failure.Backend
import ArtifactCatalog.Release

namespace ArtifactCatalog

inductive QueryError where
  | artifactNotFound (release : Release)
  | validationFailed (detail : String)
  | invalidInput (detail : String)
  | store (detail : String)
  | internal (detail : String)
deriving DecidableEq, Repr

namespace QueryError

def message : QueryError → String
  | artifactNotFound _ => "Artifact does not exist."
  | validationFailed detail => "Validation failed: " ++ detail
  | invalidInput detail => "Invalid input: " ++ detail
  | store detail => "Store error: " ++ detail
  | internal detail => "Internal error: " ++ detail

def isNotFound : QueryError → Bool
  | artifactNotFound _ => true
  | _ => false

def ofJsonFault (detail : String) : QueryError := internal ("Serialization error: " ++ detail)

end QueryError

def DomainError.toQueryError : DomainError → QueryError
  | invalidCoordinate detail | invalidChecksum detail | unsupportedAlgorithm detail =>
    .invalidInput detail
  | invalidValue detail => .validationFailed detail
  | serialization detail => .internal detail

def BackendError.toQueryError : BackendError → QueryError
  | domain error => error.toQueryError
  | constraintViolation detail | uniqueViolation detail | invalidData detail =>
    .validationFailed detail
  | other => .store other.message

end ArtifactCatalog
