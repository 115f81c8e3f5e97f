/-
Settings of the connections to the database of holdings. They are valid if the
bounds can be kept and the address belongs to a database of the right kind.
-/

import ArtifactCatalog.Failure.Backend
import ArtifactCatalog.Holding
import ArtifactCatalog.Json.Form
import ArtifactCatalog.Number.Decimal
import ArtifactCatalog.Text.Blank
import ArtifactCatalog.Url

namespace ArtifactCatalog

structure PoolSettings where
  address : String := "postgres://localhost/artifact_search"
  fewest : UInt32 := 1
  most : UInt32 := 10
  connectSeconds : UInt64 := 10
  idleSeconds : UInt64 := 600
  logsStatements : Bool := false
  migrates : Bool := true
deriving DecidableEq, Repr

namespace PoolSettings

def schemes : List String := ["postgres", "postgresql"]

inductive Fault where
  | noConnections
  | boundsCross (fewest most : UInt32)
  | noAddress
  | badAddress (masked : String) (fault : Url.Fault)
  | wrongScheme (scheme : String)
deriving DecidableEq, Repr

def Fault.message : Fault → String
  | noConnections => "database.max_connections must be at least 1"
  | boundsCross fewest most =>
    "database.min_connections (" ++ Number.natText fewest.toNat ++
      ") exceeds database.max_connections (" ++ Number.natText most.toNat ++ ")"
  | noAddress => "database.database_url is not set"
  | badAddress masked fault =>
    "database.database_url " ++ masked ++ " is not a URL: " ++ fault.message
  | wrongScheme scheme =>
    "database.database_url has scheme '" ++ scheme ++ "', expected postgres"

def Fault.toBackendError (fault : Fault) : BackendError := .configuration fault.message

def check (settings : PoolSettings) : Except Fault Unit :=
  if settings.most = 0 then .error .noConnections
  else if settings.most < settings.fewest then
    .error (.boundsCross settings.fewest settings.most)
  else if Text.allBlank settings.address.toList then .error .noAddress
  else
    match Url.parse settings.address with
    | .error fault => .error (.badAddress (Url.maskPassword settings.address) fault)
    | .ok url =>
      if String.ofList url.scheme ∈ schemes then .ok ()
      else .error (.wrongScheme (String.ofList url.scheme))

def shownAddress (settings : PoolSettings) : String := Url.maskPassword settings.address

/-- Sets the time to wait for a connection; parts of a second are dropped. -/
def withTimeoutMillis (settings : PoolSettings) (millis : UInt64) : PoolSettings :=
  { settings with connectSeconds := millis / 1000 }

end PoolSettings

instance : JsonForm PoolSettings where
  write s := .object <|
    Json.field "database_url" s.address ++
    Json.field "min_connections" s.fewest ++
    Json.field "max_connections" s.most ++
    Json.field "connect_timeout_secs" s.connectSeconds ++
    Json.field "idle_timeout_secs" s.idleSeconds ++
    Json.field "enable_logging" s.logsStatements ++
    Json.field "run_migrations" s.migrates
  read? := Json.readRecord do
    let standard : PoolSettings := {}
    let address ← FieldReader.defaulted "database_url" standard.address
    let fewest ← FieldReader.defaulted "min_connections" standard.fewest
    let most ← FieldReader.defaulted "max_connections" standard.most
    let connectSeconds ← FieldReader.defaulted "connect_timeout_secs" standard.connectSeconds
    let idleSeconds ← FieldReader.defaulted "idle_timeout_secs" standard.idleSeconds
    let logsStatements ← FieldReader.defaulted "enable_logging" standard.logsStatements
    let migrates ← FieldReader.defaulted "run_migrations" standard.migrates
    return { address, fewest, most, connectSeconds, idleSeconds, logsStatements, migrates }

def greatestColumnSize : Nat := Number.signedWordLimit - 1

def Holding.columnSize (h : Holding) : Except BackendError Nat :=
  if h.sizeInBytes.toNat ≤ greatestColumnSize then .ok h.sizeInBytes.toNat
  else
    .error (.invalidData
      ("size " ++ Number.natText h.sizeInBytes.toNat ++ " exceeds column range"))

end ArtifactCatalog
