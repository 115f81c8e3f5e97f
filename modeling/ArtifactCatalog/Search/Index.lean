/-
The full-text index. A query matches an indexed artifact when it occurs,
ignoring case, in the group, the artifact name or a class name. Matches are
grouped by project in the order in which the projects first matched.
-/

import ArtifactCatalog.Coordinate
import ArtifactCatalog.Fingerprint
import ArtifactCatalog.Search.Match
import ArtifactCatalog.Search.Window
import ArtifactCatalog.Text.Cut

namespace ArtifactCatalog

structure IndexEntry where
  repository : String
  release : Release
  classNames : List String
deriving DecidableEq, Repr

def occursIgnoringCase (needle : List Char) (text : String) : Bool :=
  Text.occursIn needle (Text.lower text.toList)

def IndexEntry.hasText (entry : IndexEntry) (needle : List Char) : Bool :=
  occursIgnoringCase needle entry.release.group ||
    occursIgnoringCase needle entry.release.artifact ||
    entry.classNames.any (occursIgnoringCase needle)

/-- Adds an entry to the match of its project, or starts one at the end. -/
def collectMatch (entry : IndexEntry) : List ProjectMatch → List ProjectMatch
  | [] =>
    [{ group := entry.release.group
       artifact := entry.release.artifact
       versions := [entry.release.version]
       hint := some entry.repository }]
  | found :: rest =>
    if found.group = entry.release.group ∧ found.artifact = entry.release.artifact then
      found.addVersion entry.release.version :: rest
    else found :: collectMatch entry rest

structure SearchIndex where
  entries : List IndexEntry := []
deriving DecidableEq, Repr

namespace SearchIndex

def add (index : SearchIndex) (repository : String) (c : Coordinate)
    (classNames : List String) : SearchIndex :=
  { entries := index.entries ++ [{ repository, release := c.release, classNames }] }

def addFingerprint (index : SearchIndex) (repository : String) (c : Coordinate)
    (fingerprint : Fingerprint) : SearchIndex :=
  index.add repository c fingerprint.classNames

def needle (query : String) : List Char := Text.lower (Text.trim query.toList)

def matching (index : SearchIndex) (needle : List Char) (repositories : List String) :
    List IndexEntry :=
  index.entries.filter fun entry => entry.repository ∈ repositories && entry.hasText needle

/-- All matches of a query; a blank query has none. -/
def allMatches (index : SearchIndex) (query : String) (repositories : List String) :
    List ProjectMatch :=
  if (needle query).isEmpty then []
  else (index.matching (needle query) repositories).foldl
    (fun found entry => collectMatch entry found) []

def search (index : SearchIndex) (query : String) (repositories : List String)
    (window : PageWindow) : List ProjectMatch :=
  window.select (index.allMatches query repositories)

end SearchIndex

end ArtifactCatalog
