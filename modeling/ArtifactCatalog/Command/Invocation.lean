/-
What a command line asks for: the parameters of the program, and one of its
commands with the parameters of that command. Parameters that are not given by
name may be given by environment variables.
-/

import ArtifactCatalog.Command.Parameter
import ArtifactCatalog.Settings.Environment

namespace ArtifactCatalog.Command

inductive Task where
  /-- Print the sightings of a repository, and store them where `persists` holds. -/
  | index (repository root : Option String) (persists : Bool)
  | lookup (checksum : String)
deriving DecidableEq, Repr

structure Invocation where
  settingsFolder : String := "config"
  stage : String := "development"
  address : Option String := none
  level : Option String := none
  task : Task
deriving DecidableEq, Repr

/-! ### Parameters of the program -/

def settingsFolderParameter : Parameter := { name := "config-dir", letter := some 'c' }

def stageParameter : Parameter := { name := "environment", letter := some 'e' }

def addressParameter : Parameter := { name := "database-url" }

def levelParameter : Parameter := { name := "log-level" }

def variableOf : List (Parameter × String) :=
  [(settingsFolderParameter, "CONFIG_DIR"), (stageParameter, "ENVIRONMENT"),
    (addressParameter, "DATABASE_URL"), (levelParameter, "RUST_LOG")]

def programGrammar : Grammar where
  parameters := variableOf.map (·.1)
  tellsVersion := true

def valueGiven? (environment : Settings.Environment) (given : Given) (parameter : Parameter) :
    Option String :=
  match given.value? parameter with
  | some value => some value
  | none => (List.lookup parameter variableOf).bind fun name => environment.lookup name

/-! ### Parameters of commands -/

def repositoryParameter : Parameter := { name := "repository-id" }

def rootParameter : Parameter := { name := "path", mayBeEmpty := false }

def persistParameter : Parameter := { name := "persist", takesValue := false }

def checksumParameter : Parameter := { name := "checksum" }

def readCommand (parameters : List Parameter) (words : List String) : Except Halt Given := do
  let grammar : Grammar := { parameters }
  let (given, rest) ← grammar.read [] none words
  if rest = [] ∨ rest = ["--"] then return given
  else .error .misuse

def readIndex (words : List String) : Except Halt Task := do
  let given ← readCommand [repositoryParameter, rootParameter, persistParameter] words
  return .index (given.value? repositoryParameter) (given.value? rootParameter)
    (given.has persistParameter)

def readLookup (words : List String) : Except Halt Task := do
  let given ← readCommand [checksumParameter] words
  match given.value? checksumParameter with
  | some checksum => return .lookup checksum
  | none => .error .misuse

def commands : List (String × (List String → Except Halt Task)) :=
  [("index", readIndex), ("lookup", readLookup)]

def helpWord : String := "help"

def hasHelp : List String → Bool
  | [] => true
  | [word] => word = helpWord || (commands.lookup word).isSome
  | _ => false

def readTask : List String → Except Halt Task
  | [] => .error .misuse
  | word :: rest =>
    if word = helpWord then .error (if hasHelp rest then .help else .misuse)
    else
      match commands.lookup word with
      | some read => read rest
      | none => .error .misuse

def Invocation.read (environment : Settings.Environment) (words : List String) :
    Except Halt Invocation := do
  let (given, rest) ← programGrammar.read [] none words
  let task ← readTask rest
  let value? := valueGiven? environment given
  return {
    settingsFolder := (value? settingsFolderParameter).getD "config"
    stage := (value? stageParameter).getD "development"
    address := value? addressParameter
    level := value? levelParameter
    task }

end ArtifactCatalog.Command
