/-
Holdings: the artifacts that repositories hold, one row for each file, found by
the checksum of the file.
-/

import ArtifactCatalog.Json.Form
import ArtifactCatalog.Text.Case
import ArtifactCatalog.Time.Instant

namespace ArtifactCatalog

structure Holding where
  repository : String
  group : String
  artifact : String
  version : String
  classifier : Option String := none
  packaging : String
  checksum : String
  sizeInBytes : UInt64
  gathered : Time.Instant
deriving DecidableEq, Repr

structure HoldingKey where
  repository : String
  group : String
  artifact : String
  version : String
  classifier : Option String
  packaging : String
deriving DecidableEq, Repr

def Holding.key (h : Holding) : HoldingKey where
  repository := h.repository
  group := h.group
  artifact := h.artifact
  version := h.version
  classifier := h.classifier
  packaging := h.packaging

instance : JsonForm Holding where
  write h := .object <|
    Json.field "repository_id" h.repository ++
    Json.field "group_id" h.group ++
    Json.field "artifact_id" h.artifact ++
    Json.field "version" h.version ++
    Json.fieldIfPresent "classifier" h.classifier ++
    Json.field "type" h.packaging ++
    Json.field "checksum" h.checksum ++
    Json.field "size_bytes" h.sizeInBytes ++
    Json.field "when_gathered" h.gathered
  read? := Json.readRecord do
    let repository ← FieldReader.required "repository_id"
    let group ← FieldReader.required "group_id"
    let artifact ← FieldReader.required "artifact_id"
    let version ← FieldReader.required "version"
    let classifier ← FieldReader.defaulted "classifier" none
    let packaging ← FieldReader.required "type"
    let checksum ← FieldReader.required "checksum"
    let sizeInBytes ← FieldReader.defaulted "size_bytes" 0
    let gathered ← FieldReader.required "when_gathered"
    return { repository, group, artifact, version, classifier, packaging, checksum, sizeInBytes,
             gathered }

/-! ### The store -/

/-- The holdings on record, the oldest first. -/
structure HoldingStore where
  rows : List Holding := []
deriving DecidableEq, Repr

namespace HoldingStore

/-- Adds a row at the end in place of the row with its key. -/
def record (store : HoldingStore) (holding : Holding) : HoldingStore :=
  { rows := store.rows.filter (fun row => row.key != holding.key) ++ [holding] }

def withChecksum (store : HoldingStore) (checksum : String) : List Holding :=
  store.rows.filter fun row =>
    Text.sameIgnoringAsciiCase row.checksum.toList checksum.toList

end HoldingStore

end ArtifactCatalog
