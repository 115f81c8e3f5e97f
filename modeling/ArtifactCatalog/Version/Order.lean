/-
Orders of version texts, and stable sorting by them.
-/

import ArtifactCatalog.Version.Reading

namespace ArtifactCatalog

structure VersionOrder where
  compare : String → String → Ordering

/-- The order of releases: alpha, beta, milestone, release candidate, snapshot,
release, service pack, then every other qualifier; numbers above qualifiers. -/
def VersionOrder.maven : VersionOrder where
  compare a b := Version.compareItems (Version.read a.toList) (Version.read b.toList)

def VersionOrder.lexical : VersionOrder where
  compare := Text.compareStrings

/-- Sorts by a version text of each entry; entries of equal rank keep their order. -/
def VersionOrder.sortOn {α : Type} (order : VersionOrder) (version : α → String)
    (entries : List α) : List α :=
  entries.mergeSort fun a b => order.compare (version a) (version b) != .gt

def VersionOrder.sort (order : VersionOrder) (versions : List String) : List String :=
  order.sortOn id versions

end ArtifactCatalog
