/-
Artifacts as queries answer them: a release, its packaging, and the repository
that supplied it.
-/

import ArtifactCatalog.Coordinate
import ArtifactCatalog.Holding

namespace ArtifactCatalog

structure LocatedArtifact where
  repository : String
  group : String
  artifact : String
  version : String
  packaging : String
deriving DecidableEq, Repr

namespace LocatedArtifact

def release (a : LocatedArtifact) : Release :=
  { group := a.group, artifact := a.artifact, version := a.version }

def coordinate (a : LocatedArtifact) : Coordinate :=
  { group := a.group, artifact := a.artifact, version := a.version, packaging := a.packaging }

def ofHolding (h : Holding) : LocatedArtifact where
  repository := h.repository
  group := h.group
  artifact := h.artifact
  version := h.version
  packaging := h.packaging

def label (a : LocatedArtifact) : String :=
  a.release.label ++ ":" ++ a.packaging ++ " (" ++ a.repository ++ ")"

end LocatedArtifact

instance : JsonForm LocatedArtifact where
  write a := .object <|
    Json.field "repository_id" a.repository ++
    Json.field "group_id" a.group ++
    Json.field "artifact_id" a.artifact ++
    Json.field "version" a.version ++
    Json.field "type" a.packaging
  read? := Json.readRecord do
    let repository ← FieldReader.required "repository_id"
    let group ← FieldReader.required "group_id"
    let artifact ← FieldReader.required "artifact_id"
    let version ← FieldReader.required "version"
    let packaging ← FieldReader.required "type"
    return { repository, group, artifact, version, packaging }

end ArtifactCatalog
