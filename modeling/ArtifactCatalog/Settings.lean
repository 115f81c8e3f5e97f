/-
The settings of the program: how repositories are indexed, which repository is
indexed, where its holdings are kept, and how much is logged. They are read from
a file of standard settings, a file for the stage at which the program runs, and
environment variables, the later before the earlier.
-/

import ArtifactCatalog.IndexingPolicy
import ArtifactCatalog.PoolSettings
import ArtifactCatalog.Settings.Environment
import ArtifactCatalog.Settings.File
import ArtifactCatalog.Settings.Layers
import ArtifactCatalog.Settings.Reading

namespace ArtifactCatalog

structure RepositorySettings where
  id : String := "internal"
  root : Option String := none
deriving DecidableEq, Repr

structure LoggingSettings where
  level : String := "info"
  asJson : Bool := false
  showsThreads : Bool := false
  showsTarget : Bool := true
deriving DecidableEq, Repr

structure Settings where
  indexer : IndexingPolicy := {}
  repository : RepositorySettings := {}
  database : Option PoolSettings := none
  logging : LoggingSettings := {}
deriving DecidableEq, Repr

/-! ### JSON forms -/

instance : JsonForm RepositorySettings where
  write s := .object <| Json.field "id" s.id ++ Json.field "root" s.root
  read? := Json.readRecord do
    let standard : RepositorySettings := {}
    let id ← FieldReader.defaulted "id" standard.id
    let root ← FieldReader.defaulted "root" standard.root
    return { id, root }

instance : JsonForm LoggingSettings where
  write s := .object <|
    Json.field "level" s.level ++
    Json.field "json_format" s.asJson ++
    Json.field "include_thread_ids" s.showsThreads ++
    Json.field "include_target" s.showsTarget
  read? := Json.readRecord do
    let standard : LoggingSettings := {}
    let level ← FieldReader.defaulted "level" standard.level
    let asJson ← FieldReader.defaulted "json_format" standard.asJson
    let showsThreads ← FieldReader.defaulted "include_thread_ids" standard.showsThreads
    let showsTarget ← FieldReader.defaulted "include_target" standard.showsTarget
    return { level, asJson, showsThreads, showsTarget }

instance : JsonForm Settings where
  write s := .object <|
    Json.field "indexer" s.indexer ++
    Json.field "repository" s.repository ++
    Json.field "database" s.database ++
    Json.field "logging" s.logging
  read? := Json.readRecord do
    let indexer ← FieldReader.defaulted "indexer" {}
    let repository ← FieldReader.defaulted "repository" {}
    let database ← FieldReader.defaulted "database" none
    let logging ← FieldReader.defaulted "logging" {}
    return { indexer, repository, database, logging }

namespace Settings

/-! ### Reading -/

def readIndexer : Value → Except Fault IndexingPolicy :=
  readGroup "struct IndexerConfig" do
    let standard : IndexingPolicy := {}
    let algorithm ← setting "checksum_algorithm" readAlgorithm standard.algorithm
    let packagings ← setting "indexable_types" (readList readText) standard.packagings
    return { algorithm, packagings }

def readRepository : Value → Except Fault RepositorySettings :=
  readGroup "struct RepositoryConfig" do
    let standard : RepositorySettings := {}
    let id ← setting "id" readText standard.id
    let root ← setting "root" (readOptional readText) standard.root
    return { id, root }

def readDatabase : Value → Except Fault PoolSettings :=
  readGroup "struct PoolConfig" do
    let standard : PoolSettings := {}
    let address ← setting "database_url" readText standard.address
    let fewest ← setting "min_connections" readWord standard.fewest
    let most ← setting "max_connections" readWord standard.most
    let connectSeconds ← setting "connect_timeout_secs" readUnsigned standard.connectSeconds
    let idleSeconds ← setting "idle_timeout_secs" readUnsigned standard.idleSeconds
    let logsStatements ← setting "enable_logging" readFlag standard.logsStatements
    let migrates ← setting "run_migrations" readFlag standard.migrates
    return { address, fewest, most, connectSeconds, idleSeconds, logsStatements, migrates }

def readLogging : Value → Except Fault LoggingSettings :=
  readGroup "struct LoggingConfig" do
    let standard : LoggingSettings := {}
    let level ← setting "level" readText standard.level
    let asJson ← setting "json_format" readFlag standard.asJson
    let showsThreads ← setting "include_thread_ids" readFlag standard.showsThreads
    let showsTarget ← setting "include_target" readFlag standard.showsTarget
    return { level, asJson, showsThreads, showsTarget }

def ofValue : Value → Except Fault Settings :=
  readGroup "struct AppConfig" do
    let indexer ← setting "indexer" readIndexer {}
    let repository ← setting "repository" readRepository {}
    let database ← setting "database" (readOptional readDatabase) none
    let logging ← setting "logging" readLogging {}
    return { indexer, repository, database, logging }

def standardName : String := "default"

/-- Loads the settings of a stage, such as development. Variables come before the
file of the stage, which comes before the file of standard settings. -/
def load (files : FileBytes) (folder stage : String) (environment : Environment) :
    Except Fault Settings := do
  let standard ← fileLayer files folder standardName
  let special ← fileLayer files folder stage
  ofValue (.table none (layered [standard, special, environmentLayer environment]))

def requireDatabase (settings : Settings) : Except Fault PoolSettings :=
  match settings.database with
  | some database => .ok database
  | none => .error (.absent "database")

end Settings

end ArtifactCatalog
