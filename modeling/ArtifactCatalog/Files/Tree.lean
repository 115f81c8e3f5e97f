/-
Trees of files. Every folder lists its entries by name; a walk visits them in
the order of their names, and a path leads through folders by names, to the
same folder by a dot, and back up by two.
-/

import ArtifactCatalog.Text.Order
import ArtifactCatalog.Time.Instant

namespace ArtifactCatalog.Files

/-! ### Files -/

/-- The time at which a file was changed. It has a date: the calendar ends, and a program
that comes upon a file from beyond its end goes no further. -/
structure FileTime extends Time.Instant where
  dated : toInstant.IsDated := by decide
deriving DecidableEq, Repr

namespace FileTime

def ofInstant? (instant : Time.Instant) : Option FileTime :=
  if dated : instant.IsDated then some { instant with dated } else none

def epoch : FileTime := { seconds := 0, nanoseconds := 0 }

def first : FileTime := { seconds := -8334601228800, nanoseconds := 0 }

def last : FileTime := { seconds := 8210266876799, nanoseconds := 999999999 }

/-- What a file keeps that is told the instant: the nearest time that has a date. -/
def nearest (instant : Time.Instant) : FileTime :=
  if supported : Time.isSupportedYear
      (Time.Date.ofDays (instant.seconds / Time.secondsPerDay)).year = true then
    { seconds := instant.seconds
      nanoseconds := min instant.nanoseconds (Time.nanosPerSecond - 1)
      dated := ⟨supported, Nat.lt_of_le_of_lt (Nat.min_le_right ..) (by decide)⟩ }
  else if instant.seconds < 0 then first
  else last

instance : Coe Time.Instant FileTime where
  coe := nearest

end FileTime

structure StoredFile where
  bytes : List UInt8
  modified : FileTime
deriving DecidableEq, Repr

inductive FileTree where
  | file (content : StoredFile)
  | folder (entries : List (String × FileTree))
deriving Repr

namespace FileTree

def empty : FileTree := folder []

def isFolder : FileTree → Bool
  | folder _ => true
  | file _ => false

def content? : FileTree → Option StoredFile
  | file content => some content
  | folder _ => none

/-! ### Building -/

def setEntry (name : String) (tree : FileTree) :
    List (String × FileTree) → List (String × FileTree)
  | [] => [(name, tree)]
  | entry :: rest =>
    if entry.1 = name then (name, tree) :: rest else entry :: setEntry name tree rest

/-- Stores a file at a path and makes the folders on the way. A path that leads
through a file changes nothing. -/
def store (content : StoredFile) : List String → FileTree → FileTree
  | [], _ => file content
  | _ :: _, file other => file other
  | name :: rest, folder entries =>
    folder (setEntry name (store content rest ((entries.lookup name).getD empty)) entries)

def makeFolder : List String → FileTree → FileTree
  | [], tree => tree
  | _ :: _, file other => file other
  | name :: rest, folder entries =>
    folder (setEntry name (makeFolder rest ((entries.lookup name).getD empty)) entries)

/-! ### Walks -/

def nameLE {α : Type} (a b : String × α) : Bool := (Text.compareStrings a.1 b.1).isLE

mutual

/-- All files with their paths, the entries of each folder in the order of their names. -/
def walk : FileTree → List (List String × StoredFile)
  | file content => [([], content)]
  | folder entries =>
    ((walkEntries entries).mergeSort nameLE).flatMap fun (name, found) =>
      found.map fun (path, content) => (name :: path, content)

def walkEntries :
    List (String × FileTree) → List (String × List (List String × StoredFile))
  | [] => []
  | (name, tree) :: rest => (name, walk tree) :: walkEntries rest

end

/-! ### Paths -/

/-- Follows one part of a path. The list holds the tree reached and the folders
above it, the nearest first. -/
def follow? : List FileTree → String → Option (List FileTree)
  | folder entries :: above, name =>
    if name = "" ∨ name = "." then some (folder entries :: above)
    else if name = ".." then (if above.isEmpty then none else some above)
    else (entries.lookup name).map (· :: folder entries :: above)
  | _, _ => none

/-- What lies at a path below the tree. The empty path, a path from the root of
all files, and one that leads above the tree lead nowhere. -/
def resolve? (tree : FileTree) (path : String) : Option FileTree :=
  if path = "" ∨ path.toList.head? = some '/' then none
  else
    (((path.toList.splitOn '/').map String.ofList).foldlM follow? [tree]).bind List.head?

def fileAt? (tree : FileTree) (path : String) : Option StoredFile :=
  (tree.resolve? path).bind content?

end FileTree

end ArtifactCatalog.Files
