/-
The program: it hands the command line, the environment variables and the files
that a run reads to `Command.run`, and shows the outcome.
-/

import ArtifactCatalog.Command.Run

namespace ArtifactCatalog.Main

open Command

/-! ### Environment variables -/

def variableOfBytes? (bytes : List UInt8) : Option (String × String) := do
  let text ← Text.Utf8.decode? bytes
  let (name, value) ← Text.cutFirst '=' text
  return (String.ofList name, String.ofList value)

def readVariables : IO Settings.Environment := do
  let bytes ← IO.FS.readBinFile "/proc/self/environ"
  return (bytes.toList.splitOn 0).filterMap variableOfBytes?

/-! ### Files -/

def orNone {α : Type} (action : IO α) : IO (Option α) := do
  try
    return some (← action)
  catch _ => return none

def readBytes? (path : String) : IO (Option (List UInt8)) :=
  orNone do return (← IO.FS.readBinFile path).toList

def readFiles (paths : List String) : IO (List (String × List UInt8)) :=
  paths.filterMapM fun path => do return (← readBytes? path).map fun bytes => (path, bytes)

/-- A time without a date ends the program. -/
def fileTime (time : IO.FS.SystemTime) : IO Files.FileTime :=
  match Files.FileTime.ofInstant? { seconds := time.sec, nanoseconds := time.nsec.toNat } with
  | some modified => return modified
  | none => throw (IO.userError "No such local time")

/-- The files and folders at a path. Links and what cannot be read are left out. -/
partial def readTree? (path : String) : IO (Option Files.FileTree) := do
  let place := (← IO.currentDir) / path
  let some known ← orNone place.symlinkMetadata | return none
  match known.type with
  | .file =>
    let some bytes ← readBytes? path | return none
    return some (.file { bytes, modified := ← fileTime known.modified })
  | .dir =>
    let some found ← orNone place.readDir | return none
    let mut entries := #[]
    for entry in found do
      if let some tree ← readTree? (Settings.joinPath path entry.fileName) then
        entries := entries.push (entry.fileName, tree)
    return some (.folder entries.toList)
  | _ => return none

/-! ### Runs -/

def surroundings (foldersAbove : Nat) (files : List (String × List UInt8))
    (tree : Option Files.FileTree) : Surroundings where
  bytesAt? path := files.lookup path
  treeAt? _ := tree
  foldersAbove := foldersAbove

/-- Reads what a run sees. Which files hold the settings may be said by the file
of variables, and where the repository lies by the settings. -/
def survey (environment : Settings.Environment) (words : List String) : IO Surroundings := do
  let foldersAbove := (← IO.currentDir).components.length - 1
  let first ← readFiles (Settings.VariableFile.paths foldersAbove)
  let second ← readFiles (settingsPaths (surroundings foldersAbove first none) environment words)
  let files := first ++ second
  match rootPath? (surroundings foldersAbove files none) environment words with
  | some root => return surroundings foldersAbove files (← readTree? root)
  | none => return surroundings foldersAbove files none

end ArtifactCatalog.Main

def main (words : List String) : IO UInt32 := do
  let environment ← ArtifactCatalog.Main.readVariables
  let around ← ArtifactCatalog.Main.survey environment words
  let outcome := ArtifactCatalog.Command.run around environment words
  IO.print outcome.output
  IO.eprint outcome.report
  return outcome.code
