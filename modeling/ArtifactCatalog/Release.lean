/-
A release: one published version of one project, named by group, artifact and
version. Releases are the nodes of the dependency graph.
-/

import ArtifactCatalog.Json.Form
import ArtifactCatalog.Text.Order

namespace ArtifactCatalog

structure Release where
  group : String
  artifact : String
  version : String
deriving DecidableEq, Repr, Hashable

def Release.label (release : Release) : String :=
  release.group ++ ":" ++ release.artifact ++ ":" ++ release.version

/-- Compares by group, then artifact, then version, each by code point. -/
def Release.compare (a b : Release) : Ordering :=
  (Text.compareStrings a.group b.group).then <|
    (Text.compareStrings a.artifact b.artifact).then (Text.compareStrings a.version b.version)

def Release.sort (releases : List Release) : List Release :=
  releases.mergeSort fun a b => a.compare b != .gt

instance : JsonForm Release where
  write release := .object <|
    Json.field "group_id" release.group ++
    Json.field "artifact_id" release.artifact ++
    Json.field "version" release.version
  read? := Json.readRecord do
    let group ← FieldReader.required "group_id"
    let artifact ← FieldReader.required "artifact_id"
    let version ← FieldReader.required "version"
    return { group, artifact, version }

end ArtifactCatalog
