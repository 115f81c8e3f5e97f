/-
Errors of the parts that a query relies on: the index, the registry of release
metadata, and the database of holdings.
-/

import ArtifactCatalog.Failure.Domain
import ArtifactCatalog.Number.Text
import ArtifactCatalog.Url.Fault

namespace ArtifactCatalog

inductive BackendError where
  | connection (detail : String)
  | pool (detail : String)
  | query (detail : String)
  | migration (detail : String)
  | uniqueViolation (detail : String)
  | constraintViolation (detail : String)
  | invalidData (detail : String)
  | serialization (detail : String)
  | configuration (detail : String)
  | repositoryUnavailable (repository reason : String)
  | domain (error : DomainError)
  | internal (detail : String)
deriving DecidableEq, Repr

namespace BackendError

def message : BackendError → String
  | connection detail => "Database connection error: " ++ detail
  | pool detail => "Connection pool error: " ++ detail
  | query detail => "Query error: " ++ detail
  | migration detail => "Migration error: " ++ detail
  | uniqueViolation detail => "Unique constraint violation: " ++ detail
  | constraintViolation detail => "Constraint violation: " ++ detail
  | invalidData detail => "Invalid data format: " ++ detail
  | serialization detail => "Serialization error: " ++ detail
  | configuration detail => "Configuration error: " ++ detail
  | repositoryUnavailable repository reason =>
    "Repository '" ++ repository ++ "' unavailable: " ++ reason
  | domain error => "Domain error: " ++ error.message
  | internal detail => "Internal store error: " ++ detail

def isConstraintViolation : BackendError → Bool
  | constraintViolation _ | uniqueViolation _ => true
  | _ => false

def isTransient : BackendError → Bool
  | connection _ | pool _ | repositoryUnavailable .. => true
  | _ => false

end BackendError

/-! ### Faults of the database -/

inductive MigrationFault where
  | missing (version : Int)
  | changed (version : Int)
  | unfinished (version : Int)
deriving DecidableEq, Repr

def MigrationFault.message : MigrationFault → String
  | missing version =>
    "migration " ++ Number.intText version ++
      " was previously applied but is missing in the resolved migrations"
  | changed version =>
    "migration " ++ Number.intText version ++ " was previously applied but has been modified"
  | unfinished version =>
    "migration " ++ Number.intText version ++
      " is partially applied; fix and remove row from `_sqlx_migrations` table"

inductive DatabaseFault where
  | rejected (code : Option String) (text : String)
  | poolTimedOut
  | poolClosed
  | transport (text : String)
  | encryption (text : String)
  | protocol (text : String)
  | columnNotFound (column : String)
  | decoding (text : String)
  | migration (fault : MigrationFault)
  | rowNotFound
  | configuration (text : String)
  | workerCrashed
deriving DecidableEq, Repr

namespace DatabaseFault

/-- The five-character state of a row that repeats a unique value. -/
def uniqueState : String := "23505"

def constraintStates : List String := ["23000", "23502", "23503", "23514"]

def toBackendError : DatabaseFault → BackendError
  | rejected code text =>
    match code with
    | none => .query text
    | some code =>
      if code = uniqueState then .uniqueViolation text
      else if code ∈ constraintStates then .constraintViolation text
      else .query text
  | poolTimedOut => .pool "Connection pool timeout"
  | poolClosed => .pool "Connection pool closed"
  | transport text => .connection ("I/O error: " ++ text)
  | encryption text => .connection ("TLS error: " ++ text)
  | protocol text => .connection ("Protocol error: " ++ text)
  | columnNotFound column => .invalidData ("Column not found: " ++ column)
  | decoding text => .serialization ("Decode error: " ++ text)
  | migration fault => .migration fault.message
  | rowNotFound =>
    .internal "no rows returned by a query that expected to return at least one row"
  | configuration text => .internal ("error with configuration: " ++ text)
  | workerCrashed => .internal "attempted to communicate with a crashed background worker"

end DatabaseFault

def MigrationFault.toBackendError (fault : MigrationFault) : BackendError :=
  .migration fault.message

def Url.Fault.toBackendError (fault : Url.Fault) : BackendError :=
  .configuration ("Invalid URL: " ++ fault.message)

end ArtifactCatalog
