/-
The queries of a caller: free search, checksum lookup, versions of a project,
dependencies and their expansion, and referrers. Every query but the checksum
lookup is confined to the repositories that the caller observes.
-/

import ArtifactCatalog.Failure.Query
import ArtifactCatalog.Holding
import ArtifactCatalog.Query.DeclaredGraph
import ArtifactCatalog.Search.Index
import ArtifactCatalog.Version.Order

namespace ArtifactCatalog

structure QuerySources where
  observed : Except BackendError (List String)
  search : String → List String → PageWindow → Except BackendError (List ProjectMatch)
  registry : Registry
  holdings : String → Except BackendError (List Holding)
  order : VersionOrder := .maven

def versionListingPackaging : String := "pom"

def asQueryAnswer {α : Type} (answer : Except BackendError α) : Except QueryError α :=
  answer.mapError BackendError.toQueryError

namespace QuerySources

def ofStores (observed : List String) (index : SearchIndex) (registry : Registry)
    (store : HoldingStore) : QuerySources where
  observed := .ok observed
  search query repositories window := .ok (index.search query repositories window)
  registry := registry
  holdings checksum := .ok (store.withChecksum checksum)

def releasesOf (found : List ProjectMatch) : List Release :=
  found.flatMap fun m => m.versions.map fun version =>
    { group := m.group, artifact := m.artifact, version }

def quickSearch (sources : QuerySources) (query : String) :
    Except QueryError (List LocatedArtifact) := do
  let observed ← asQueryAnswer sources.observed
  if observed.isEmpty then return []
  let found ← asQueryAnswer (sources.search query observed .all)
  return (releasesOf found).map (sources.registry.locate observed)

def findByChecksum (sources : QuerySources) (checksum : String) :
    Except QueryError (List LocatedArtifact) := do
  let rows ← asQueryAnswer (sources.holdings checksum)
  return rows.map LocatedArtifact.ofHolding

/-- The versions of a project in ascending order; equal versions keep the order
of the repositories. -/
def listVersions (sources : QuerySources) (group artifact : String) :
    Except QueryError (List LocatedArtifact) := do
  let observed ← asQueryAnswer sources.observed
  let listed := (sources.registry.versionsAcross observed group artifact).map
    fun (repository, version) =>
      ({ repository, group, artifact, version,
         packaging := versionListingPackaging } : LocatedArtifact)
  return sources.order.sortOn LocatedArtifact.version listed

def dependencies (sources : QuerySources) (release : Release) :
    Except QueryError (List Dependency) := do
  let observed ← asQueryAnswer sources.observed
  match sources.registry.dependencies? observed release with
  | some dependencies => return dependencies
  | none => throw (.artifactNotFound release)

def expansion (sources : QuerySources) (release : Release) (limit : UInt64) :
    Except QueryError Expansion := do
  let observed ← asQueryAnswer sources.observed
  let graph := DeclaredGraph.ofRegistry sources.registry observed
  if (graph.dependencies? release).isSome then return graph.expand release limit
  else throw (.artifactNotFound release)

def referrers (sources : QuerySources) (release : Release) :
    Except QueryError (List Referrer) := do
  let observed ← asQueryAnswer sources.observed
  return (sources.registry.referrersAcross observed release).map (·.2)

def referringArtifacts (sources : QuerySources) (release : Release) :
    Except QueryError (List LocatedArtifact) := do
  let observed ← asQueryAnswer sources.observed
  return (sources.registry.referrersAcross observed release).map fun (repository, referrer) =>
    { repository
      group := referrer.namespaceName
      artifact := referrer.project
      version := referrer.version
      packaging := "" }

end QuerySources

end ArtifactCatalog
