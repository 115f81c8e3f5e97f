/-
The default layout of a repository. The group becomes a chain of directories,
artifact and version one directory each, and the file is named after artifact,
version, classifier and extension. Reading a path undoes this for file names
with one extension and a classifier without dots.
-/

import ArtifactCatalog.Coordinate
import ArtifactCatalog.Text.Cut

namespace ArtifactCatalog.Coordinate

def jarPackagings : List String :=
  ["maven-plugin", "ejb", "ejb-client", "test-jar", "java-source", "javadoc"]

def extension (c : Coordinate) : String :=
  if c.packaging ∈ jarPackagings then defaultPackaging else c.packaging

def fileName (c : Coordinate) : List Char :=
  c.artifact.toList ++ '-' :: c.version.toList ++
    (match c.classifier with
      | some classifier => '-' :: classifier.toList
      | none => []) ++
    '.' :: c.extension.toList

def path (c : Coordinate) : String :=
  String.ofList <|
    Text.replaceChar '.' '/' c.group.toList ++ '/' :: c.artifact.toList ++ '/' ::
      c.version.toList ++ '/' :: c.fileName

/-! ### Reading paths -/

def normalPath (path : List Char) : List Char :=
  Text.stripWhile (· == '/') (Text.replaceChar '\\' '/' path)

def readFileName (artifact version file : List Char) :
    Option (Option (List Char) × List Char) :=
  match Text.afterStart? (artifact ++ '-' :: version) file with
  | some ('.' :: extension) => some (none, extension)
  | some ('-' :: rest) =>
    (Text.cutFirst '.' rest).map fun (classifier, extension) => (some classifier, extension)
  | _ => none

def isExtension (extension : List Char) : Bool :=
  !extension.isEmpty && !extension.contains '.'

def ofPath? (path : String) : Option Coordinate :=
  match ((normalPath path.toList).splitOn '/').reverse with
  | file :: version :: artifact :: parent :: ancestors =>
    match readFileName artifact version file with
    | none => none
    | some (classifier, extension) =>
      let c : Coordinate :=
        { group := String.ofList (List.intercalate ['.'] (parent :: ancestors).reverse)
          artifact := String.ofList artifact
          version := String.ofList version
          classifier := classifier.map String.ofList
          packaging := String.ofList extension }
      if isExtension extension && c.isValid then some c else none
  | _ => none

end ArtifactCatalog.Coordinate
