/-
Settings from files. A file of settings is a TOML document, and its values keep
the path of the file. A file that is not there sets nothing; bytes that are no
text are read as replacement characters.
-/

import ArtifactCatalog.Settings.Fault
import ArtifactCatalog.Text.Utf8
import ArtifactCatalog.Toml.Document

namespace ArtifactCatalog.Settings

/-! ### Values of documents -/

mutual

def Value.ofToml (origin : Origin) : Toml.Value → Value
  | .text s | .moment s => .scalar origin (.text s)
  | .integer n => .scalar origin (.integer n)
  | .number x => .scalar origin (.number x)
  | .boolean b => .scalar origin (.boolean b)
  | .array items => .list (some origin) (ofTomlItems origin items)
  | .table entries => .table (some origin) (ofTomlEntries origin entries)

def ofTomlItems (origin : Origin) : List Toml.Value → List Value
  | [] => []
  | item :: rest => Value.ofToml origin item :: ofTomlItems origin rest

def ofTomlEntries (origin : Origin) : List (String × Toml.Value) → List (String × Value)
  | [] => []
  | (name, value) :: rest => (name, Value.ofToml origin value) :: ofTomlEntries origin rest

end

/-! ### Paths -/

def joinPath (folder path : String) : String :=
  if folder = "" ∨ path.toList.head? = some '/' then path
  else if folder.toList.getLast? = some '/' then folder ++ path
  else folder ++ "/" ++ path

def lastPart (path : List Char) : List Char := (path.splitOn '/').getLast?.getD []

def plainPath (path : String) : String :=
  let parts := (path.toList.splitOn '/').filter fun part => part != [] && part != ['.']
  String.ofList (['/'].intercalate parts)

def fileEnding : String := ".toml"

def filePaths (folder name : String) : List String :=
  let path := joinPath folder (name ++ fileEnding)
  [path, path ++ fileEnding]

/-! ### Layers -/

abbrev FileBytes := String → Option (List UInt8)

def withoutMark : List Char → List Char
  | c :: rest => if c.toNat = 0xfeff then rest else c :: rest
  | [] => []

def layerOfBytes (path : String) (bytes : List UInt8) :
    Except Fault (List (String × Value)) :=
  let text := withoutMark (Text.Utf8.decodeLossy bytes)
  match Toml.read text with
  | .ok entries => .ok (ofTomlEntries (.file path) entries)
  | .error fault => .error (.unreadableFile path (fault.message text))

/-- The layer of a file of settings. A file whose name is nothing but the
ending is not taken for one. -/
def fileLayer (files : FileBytes) (folder name : String) :
    Except Fault (List (String × Value)) :=
  let found := (filePaths folder name).findSome? fun path =>
    (files path).map fun bytes => (path, bytes)
  match found with
  | none => .ok []
  | some (path, bytes) =>
    if lastPart path.toList = fileEnding.toList then .ok []
    else layerOfBytes (plainPath path) bytes

end ArtifactCatalog.Settings
