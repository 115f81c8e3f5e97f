/-
Projects found by a search, with the versions that matched.
-/

import ArtifactCatalog.Json.Form

namespace ArtifactCatalog

structure ProjectMatch where
  group : String
  artifact : String
  /-- The matching versions in the order of the index, each once. -/
  versions : List String := []
  hint : Option String := none
deriving DecidableEq, Repr

namespace ProjectMatch

def addVersion (m : ProjectMatch) (version : String) : ProjectMatch :=
  if version ∈ m.versions then m else { m with versions := m.versions ++ [version] }

def withHint (m : ProjectMatch) (repository : String) : ProjectMatch :=
  { m with hint := some repository }

def label (m : ProjectMatch) : String := m.group ++ ":" ++ m.artifact

end ProjectMatch

instance : JsonForm ProjectMatch where
  write m := .object <|
    Json.field "group_id" m.group ++
    Json.field "artifact_id" m.artifact ++
    Json.field "versions" m.versions ++
    Json.fieldIfPresent "repository_hint" m.hint
  read? := Json.readRecord do
    let group ← FieldReader.required "group_id"
    let artifact ← FieldReader.required "artifact_id"
    let versions ← FieldReader.required "versions"
    let hint ← FieldReader.defaulted "repository_hint" none
    return { group, artifact, versions, hint }

end ArtifactCatalog
