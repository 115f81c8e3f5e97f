/-
Inspection of archives: the checksum of the bytes, and the names of the files
inside in the order of the directory.
-/

import ArtifactCatalog.Archive.Directory
import ArtifactCatalog.Digest
import ArtifactCatalog.Files.Tree
import ArtifactCatalog.Text.Cut

namespace ArtifactCatalog

structure ArchiveContents where
  checksum : Checksum
  entryNames : List String
  sizeInBytes : UInt64
deriving DecidableEq, Repr

inductive ArchiveFault where
  | unreadable (path : String)
  | corrupt (path : String)
deriving DecidableEq, Repr

def ArchiveFault.path : ArchiveFault → String
  | unreadable path | corrupt path => path

/-- What a message says in front of the cause. -/
def ArchiveFault.heading : ArchiveFault → String
  | unreadable path => "failed to read " ++ path ++ ":"
  | corrupt path => "corrupt archive " ++ path ++ ":"

namespace Archive

def isFolderName (name : List Char) : Bool :=
  name.getLast? == some '/' || name.getLast? == some '\\'

def fileNames? (bytes : List UInt8) : Option (List String) :=
  (names? bytes.toArray).map fun names =>
    (names.filter (!isFolderName ·)).map fun name =>
      String.ofList (Text.replaceChar '\\' '/' name)

def inspect? (algorithm : Algorithm) (bytes : List UInt8) : Option ArchiveContents :=
  (fileNames? bytes).map fun entryNames =>
    { checksum := .ofBytes algorithm bytes, entryNames
      sizeInBytes := UInt64.ofNat bytes.length }

def inspectAt (algorithm : Algorithm) (files : Files.FileTree) (path : String) :
    Except ArchiveFault ArchiveContents :=
  match files.fileAt? path with
  | none => .error (.unreadable path)
  | some file =>
    match inspect? algorithm file.bytes with
    | some contents => .ok contents
    | none => .error (.corrupt path)

def classSuffix : List Char := ".class".toList

def classNames (entryNames : List String) : List String :=
  entryNames.filterMap fun name =>
    (Text.beforeEnd? classSuffix name.toList).map fun stem =>
      String.ofList (Text.replaceChar '/' '.' stem)

end Archive

end ArtifactCatalog
