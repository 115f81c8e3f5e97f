/-
Settings from environment variables. A variable counts if its name, in lower
case, begins with the mark of the program; a double underline in the rest of
the name separates groups. The value is taken for a flag or a number where it
reads as one, for a list where one is wanted, and for a text otherwise.
-/

import ArtifactCatalog.Number.Decimal
import ArtifactCatalog.Settings.Value
import ArtifactCatalog.Text.Case
import ArtifactCatalog.Text.Cut

namespace ArtifactCatalog.Settings

/-- Variables in the order in which their values are laid over each other. Nothing fixes
this order: the same variables are laid in one order today and in another tomorrow. -/
abbrev Environment := List (String × String)

def environmentMark : List Char := "artifact_search__".toList

def groupMark : List Char := "__".toList

def listKeys : List String := ["indexer.indexable_types"]

def settingPath? (name : String) : Option String :=
  (Text.afterStart? environmentMark (Text.lower name.toList)).map fun rest =>
    String.ofList (Text.replaceAll groupMark ['.'] rest)

/-- A flag, an integer of 64 bits, a number or a text, the first that fits. -/
def readScalar (s : String) : Scalar :=
  let word := Text.lowerString s
  if word = "true" then .boolean true
  else if word = "false" then .boolean false
  else
    match Number.parseInt64? s.toList with
    | some n => .integer n
    | none =>
      match Number.parseBinary64? s.toList with
      | some x => .number x
      | none => .text s

def variableValue (path s : String) : Value :=
  match readScalar s with
  | .text s =>
    if path ∈ listKeys then
      .list (some .environment) <| (s.toList.splitOn ',').map fun part =>
        .scalar .environment (.text (String.ofList part))
    else .scalar .environment (.text s)
  | content => .scalar .environment content

def environmentLayer (environment : Environment) : List (String × Value) :=
  environment.filterMap fun (name, value) =>
    (settingPath? name).map fun path => (path, variableValue path value)

end ArtifactCatalog.Settings
