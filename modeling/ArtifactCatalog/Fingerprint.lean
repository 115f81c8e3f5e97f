/-
Fingerprints of archives: the checksum of the bytes and the classes inside, as
the index keeps them.
-/

import ArtifactCatalog.Checksum
import ArtifactCatalog.Time.Instant

namespace ArtifactCatalog

structure Fingerprint where
  checksum : Checksum
  archivePath : String
  lastModified : Time.Instant
  sizeInBytes : UInt64
  /-- Fully qualified names in the order of the archive's entries. -/
  classNames : List String
deriving DecidableEq, Repr

namespace Fingerprint

def classListing (f : Fingerprint) : String :=
  String.join (f.classNames.map (· ++ "\n"))

def containsClass (f : Fingerprint) (name : String) : Bool := f.classNames.contains name

end Fingerprint

instance : JsonForm Fingerprint where
  write f := .object <|
    Json.field "checksum" f.checksum ++
    Json.field "archive_path" f.archivePath ++
    Json.field "last_modified" f.lastModified ++
    Json.field "size_bytes" f.sizeInBytes ++
    Json.field "class_names" f.classNames
  read? := Json.readRecord do
    let checksum ← FieldReader.required "checksum"
    let archivePath ← FieldReader.required "archive_path"
    let lastModified ← FieldReader.required "last_modified"
    let sizeInBytes ← FieldReader.required "size_bytes"
    let classNames ← FieldReader.required "class_names"
    return { checksum, archivePath, lastModified, sizeInBytes, classNames }

end ArtifactCatalog
