/-
Sightings: the artifacts that a walk through a repository comes upon. Every
file at a layout path whose packaging is covered and which is a readable
archive is sighted once.
-/

import ArtifactCatalog.Holding
import ArtifactCatalog.Submission

namespace ArtifactCatalog

structure Sighting where
  repository : String
  coordinate : Coordinate
  fingerprint : Fingerprint
deriving DecidableEq, Repr

instance : JsonForm Sighting where
  write s := .object <|
    Json.field "repository_id" s.repository ++
    Json.field "coordinate" s.coordinate ++
    Json.field "record" s.fingerprint
  read? := Json.readRecord do
    let repository ← FieldReader.required "repository_id"
    let coordinate ← FieldReader.required "coordinate"
    let fingerprint ← FieldReader.required "record"
    return { repository, coordinate, fingerprint }

namespace Sighting

def holding (s : Sighting) (gathered : Time.Instant) : Holding where
  repository := s.repository
  group := s.coordinate.group
  artifact := s.coordinate.artifact
  version := s.coordinate.version
  classifier := s.coordinate.classifier
  packaging := s.coordinate.packaging
  checksum := s.fingerprint.checksum.value
  sizeInBytes := s.fingerprint.sizeInBytes
  gathered := gathered

/-- The path of a file below the root of its repository, with forward slashes only. -/
def repositoryPath (path : List String) : String :=
  String.ofList (Text.replaceChar '\\' '/' (String.intercalate "/" path).toList)

def ofFile? (policy : IndexingPolicy) (repository : String) (path : List String)
    (file : Files.StoredFile) : Option Sighting := do
  let archivePath := repositoryPath path
  let coordinate ← Coordinate.ofPath? archivePath
  let fingerprint ← policy.fingerprint? { coordinate, file := some file, archivePath }
  return { repository, coordinate, fingerprint }

def scan (policy : IndexingPolicy) (repository : String) (root : Files.FileTree) :
    List Sighting :=
  root.walk.filterMap fun (path, file) => ofFile? policy repository path file

inductive Fault where
  | notAFolder (root : String)
deriving DecidableEq, Repr

def Fault.message : Fault → String
  | notAFolder root => "Repository root " ++ root ++ " is not a directory"

/-- The sightings below what was found for a root; `shown` is how messages write it. -/
def scanAt (policy : IndexingPolicy) (repository : String) (found : Option Files.FileTree)
    (shown : String) : Except Fault (List Sighting) :=
  match found with
  | some (.folder entries) => .ok (scan policy repository (.folder entries))
  | _ => .error (.notAFolder shown)

end Sighting

end ArtifactCatalog
