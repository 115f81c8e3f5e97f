/-
Runs of the program. A run sees the words of its command line, the environment
variables and the files; it ends with a code, the text that it printed and, if
something went wrong, a report.
-/

import ArtifactCatalog.Command.Invocation
import ArtifactCatalog.Json.Printer
import ArtifactCatalog.Settings
import ArtifactCatalog.Settings.VariableFile
import ArtifactCatalog.Sighting

namespace ArtifactCatalog.Command

/-! ### Failures -/

inductive Failure where
  | settings (folder : String) (fault : Settings.Fault)
  | noRoot
  | scan (fault : Sighting.Fault)
  | noDatabase (fault : Settings.Fault)
  | database (error : BackendError)
deriving DecidableEq, Repr

namespace Failure

def message : Failure → String
  | settings folder _ => "Failed to load configuration from " ++ folder
  | noRoot => "No repository root configured; pass --path or set repository.root"
  | scan fault => fault.message
  | noDatabase fault => fault.message
  | database _ => "Failed to create database connection pool"

def cause? : Failure → Option String
  | settings _ fault => some fault.message
  | database error => some error.message
  | _ => none

def indented (s : String) : String :=
  let lines := (s.toList.splitOn '\n').map (List.replicate 4 ' ' ++ ·)
  String.ofList (['\n'].intercalate lines)

def report (failure : Failure) : String :=
  "Error: " ++ failure.message ++ "\n" ++
    match failure.cause? with
    | some cause => "\nCaused by:\n" ++ indented cause ++ "\n"
    | none => ""

end Failure

/-! ### Outcomes -/

structure Outcome where
  code : UInt32 := 0
  output : String := ""
  report : String := ""
deriving DecidableEq, Repr

def Outcome.failed (output : String) (failure : Failure) : Outcome where
  code := 1
  output := output
  report := failure.report

def Halt.outcome : Halt → Outcome
  | misuse => { code := 2 }
  | help | version => {}

def jsonLines {α : Type} [JsonForm α] (values : List α) : String :=
  String.ofList (values.flatMap fun value => (JsonForm.write value).render ++ ['\n'])

/-! ### Commands -/

def timedOut : BackendError :=
  .connection
    "Failed to open artifact store pool: pool timed out while waiting for an open connection"

/-- What a run meets. No database lets it in, so that every command that needs one ends there. -/
structure Surroundings where
  bytesAt? : Settings.FileBytes
  treeAt? : String → Option Files.FileTree
  foldersAbove : Nat := 0
  /-- The answer of a database to an attempt to open connections. -/
  refusal : PoolSettings → BackendError := fun _ => timedOut

def Surroundings.ofTree (tree : Files.FileTree) : Surroundings where
  bytesAt? path := (tree.fileAt? path).map (·.bytes)
  treeAt? := tree.resolve?

def databaseFailure (around : Surroundings) (settings : Settings) : Failure :=
  match settings.requireDatabase with
  | .error fault => .noDatabase fault
  | .ok database =>
    match database.check with
    | .error fault => .database fault.toBackendError
    | .ok () => .database (around.refusal database)

def index (around : Surroundings) (settings : Settings) (persists : Bool) : Outcome :=
  match settings.repository.root with
  | none => .failed "" .noRoot
  | some root =>
    let found := around.treeAt? root
    match Sighting.scanAt settings.indexer settings.repository.id found root with
    | .error fault => .failed "" (.scan fault)
    | .ok sightings =>
      let output := jsonLines sightings
      if persists then .failed output (databaseFailure around settings) else { output }

def Task.run (around : Surroundings) (settings : Settings) : Task → Outcome
  | index _ _ persists => Command.index around settings persists
  | lookup _ => .failed "" (databaseFailure around settings)

/-! ### Settings of a run -/

def withAddress (address : String) (settings : Settings) : Settings :=
  { settings with database := some { settings.database.getD {} with address } }

def Invocation.override (invocation : Invocation) (settings : Settings) : Settings :=
  let settings := match invocation.address with
    | some address => withAddress address settings
    | none => settings
  let settings := { settings with
    logging.level := invocation.level.getD settings.logging.level }
  match invocation.task with
  | .index repository root _ =>
    { settings with repository :=
      { id := repository.getD settings.repository.id
        root := root <|> settings.repository.root } }
  | .lookup _ => settings

def Invocation.settings (around : Surroundings) (environment : Settings.Environment)
    (invocation : Invocation) : Except Failure Settings :=
  match Settings.load around.bytesAt? invocation.settingsFolder invocation.stage
      environment with
  | .ok settings => .ok (invocation.override settings)
  | .error fault => .error (.settings invocation.settingsFolder fault)

def allVariables (around : Surroundings) (environment : Settings.Environment) :
    Settings.Environment :=
  Settings.VariableFile.extend around.bytesAt? around.foldersAbove environment

def run (around : Surroundings) (environment : Settings.Environment) (words : List String) :
    Outcome :=
  let environment := allVariables around environment
  match Invocation.read environment words with
  | .error halt => halt.outcome
  | .ok invocation =>
    match invocation.settings around environment with
    | .error failure => .failed "" failure
    | .ok settings => invocation.task.run around settings

/-! ### What a run reads -/

def settingsPaths (around : Surroundings) (environment : Settings.Environment)
    (words : List String) : List String :=
  match Invocation.read (allVariables around environment) words with
  | .error _ => []
  | .ok invocation =>
    [Settings.standardName, invocation.stage].flatMap
      (Settings.filePaths invocation.settingsFolder)

def rootPath? (around : Surroundings) (environment : Settings.Environment)
    (words : List String) : Option String := do
  let environment := allVariables around environment
  let invocation ← (Invocation.read environment words).toOption
  let settings ← (invocation.settings around environment).toOption
  match invocation.task with
  | .index .. => settings.repository.root
  | .lookup _ => none

end ArtifactCatalog.Command
