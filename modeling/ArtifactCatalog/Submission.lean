/-
Submissions: artifacts presented for indexing. A submission leads to a
fingerprint if its packaging is covered and its file is a readable archive.
-/

import ArtifactCatalog.Archive
import ArtifactCatalog.Coordinate.Layout
import ArtifactCatalog.Files.Tree
import ArtifactCatalog.Fingerprint
import ArtifactCatalog.IndexingPolicy

namespace ArtifactCatalog

structure Submission where
  coordinate : Coordinate
  file : Option Files.StoredFile
  archivePath : String

namespace Submission

/-- A file that is to be recorded at the layout path of its coordinate. -/
def ofFile (coordinate : Coordinate) (file : Option Files.StoredFile) : Submission :=
  { coordinate, file, archivePath := coordinate.path }

def inRepository (root : Files.FileTree) (coordinate : Coordinate) : Submission :=
  ofFile coordinate (root.fileAt? coordinate.path)

end Submission

def IndexingPolicy.fingerprint? (policy : IndexingPolicy) (submission : Submission) :
    Option Fingerprint := do
  guard (policy.covers submission.coordinate.packaging)
  let file ← submission.file
  let contents ← Archive.inspect? policy.algorithm file.bytes
  return {
    checksum := contents.checksum
    archivePath := submission.archivePath
    lastModified := file.modified.toInstant
    sizeInBytes := contents.sizeInBytes
    classNames := Archive.classNames contents.entryNames }

def IndexingPolicy.fingerprints (policy : IndexingPolicy) (submissions : List Submission) :
    List (Coordinate × Fingerprint) :=
  submissions.filterMap fun submission =>
    (policy.fingerprint? submission).map (submission.coordinate, ·)

end ArtifactCatalog
