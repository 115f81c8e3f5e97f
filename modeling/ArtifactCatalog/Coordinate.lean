/-
Coordinates of artifacts. A coordinate names one file of a release; classifier
and packaging tell the files of a release apart, and the release alone decides
whether two coordinates mean the same project version.
-/

import ArtifactCatalog.Failure.Domain
import ArtifactCatalog.Release
import ArtifactCatalog.Text.Blank
import ArtifactCatalog.Text.Case

namespace ArtifactCatalog

def defaultPackaging : String := "jar"

structure Coordinate where
  group : String
  artifact : String
  version : String
  classifier : Option String := none
  packaging : String := defaultPackaging
deriving DecidableEq, Repr

namespace Coordinate

def release (c : Coordinate) : Release :=
  { group := c.group, artifact := c.artifact, version := c.version }

def sameRelease (a b : Coordinate) : Bool := a.release == b.release

def withPackaging (c : Coordinate) (packaging : String) : Coordinate := { c with packaging }

def withClassifier (c : Coordinate) (classifier : String) : Coordinate :=
  { c with classifier := if classifier.isEmpty then none else some classifier }

def label (c : Coordinate) : String :=
  c.release.label ++ (match c.classifier with
    | some classifier => ":" ++ classifier
    | none => "") ++ ":" ++ c.packaging

/-! ### Validity -/

inductive Fault where
  | emptyIdentifier (label : String)
  | strayCharacter (label value : String)
  | blankVersion
deriving DecidableEq, Repr

def Fault.message : Fault → String
  | emptyIdentifier label => label ++ " cannot be empty"
  | strayCharacter label value => label ++ " '" ++ value ++ "' contains invalid characters"
  | blankVersion => "version cannot be empty"

def Fault.toDomainError (fault : Fault) : DomainError := .invalidCoordinate fault.message

def isIdentifierChar (c : Char) : Bool :=
  Text.isAsciiLetter c || Text.isAsciiDigit c || c == '_' || c == '.' || c == '-'

def checkIdentifier (label value : String) : Except Fault Unit :=
  if value.isEmpty then .error (.emptyIdentifier label)
  else if value.toList.all isIdentifierChar then .ok ()
  else .error (.strayCharacter label value)

def check (c : Coordinate) : Except Fault Unit := do
  checkIdentifier "groupId" c.group
  checkIdentifier "artifactId" c.artifact
  if Text.allBlank c.version.toList then .error .blankVersion else .ok ()

def isValid (c : Coordinate) : Bool := c.check.toBool

end Coordinate

instance : JsonForm Coordinate where
  write c := .object <|
    Json.field "group_id" c.group ++
    Json.field "artifact_id" c.artifact ++
    Json.field "version" c.version ++
    Json.fieldIfPresent "classifier" c.classifier ++
    Json.field "type" c.packaging
  read? := Json.readRecord do
    let group ← FieldReader.required "group_id"
    let artifact ← FieldReader.required "artifact_id"
    let version ← FieldReader.required "version"
    let classifier ← FieldReader.defaulted "classifier" none
    let packaging ← FieldReader.defaulted "type" defaultPackaging
    return { group, artifact, version, classifier, packaging }

end ArtifactCatalog
