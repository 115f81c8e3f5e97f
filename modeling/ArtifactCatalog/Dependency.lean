/-
Declared dependencies of a release, and the projects that refer to one.
-/

import ArtifactCatalog.Release

namespace ArtifactCatalog

structure Dependency where
  group : String
  artifact : String
  version : String
  classifier : Option String := none
  packaging : Option String := none
  scope : Option String := none
deriving DecidableEq, Repr

/-- An empty text stands for no text. -/
def nonempty? (text : Option String) : Option String := text.filter fun s => !s.isEmpty

namespace Dependency

def withScope (d : Dependency) (scope : String) : Dependency :=
  { d with scope := nonempty? (some scope) }

def withClassifier (d : Dependency) (classifier : String) : Dependency :=
  { d with classifier := nonempty? (some classifier) }

def withPackaging (d : Dependency) (packaging : String) : Dependency :=
  { d with packaging := nonempty? (some packaging) }

def normalized (d : Dependency) : Dependency :=
  { d with
    classifier := nonempty? d.classifier
    packaging := nonempty? d.packaging
    scope := nonempty? d.scope }

def release (d : Dependency) : Release :=
  { group := d.group, artifact := d.artifact, version := d.version }

def label (d : Dependency) : String :=
  d.release.label ++ (match d.scope with
    | some scope => " (" ++ scope ++ ")"
    | none => "")

end Dependency

instance : JsonForm Dependency where
  write d := .object <|
    Json.field "group_id" d.group ++
    Json.field "artifact_id" d.artifact ++
    Json.field "version" d.version ++
    Json.fieldIfPresent "classifier" d.classifier ++
    Json.fieldIfPresent "type" d.packaging ++
    Json.fieldIfPresent "scope" d.scope
  read? := Json.readRecord do
    let group ← FieldReader.required "group_id"
    let artifact ← FieldReader.required "artifact_id"
    let version ← FieldReader.required "version"
    let classifier ← FieldReader.defaulted "classifier" none
    let packaging ← FieldReader.defaulted "type" none
    let scope ← FieldReader.defaulted "scope" none
    return { group, artifact, version, classifier, packaging, scope }

structure Referrer where
  namespaceName : String
  project : String
  version : String
deriving DecidableEq, Repr

def Referrer.label (r : Referrer) : String :=
  r.namespaceName ++ ":" ++ r.project ++ ":" ++ r.version

instance : JsonForm Referrer where
  write r := .object <|
    Json.field "namespace" r.namespaceName ++
    Json.field "project_id" r.project ++
    Json.field "project_version" r.version
  read? := Json.readRecord do
    let namespaceName ← FieldReader.required "namespace"
    let project ← FieldReader.required "project_id"
    let version ← FieldReader.required "project_version"
    return { namespaceName, project, version }

end ArtifactCatalog
