/-
Queries whose observed repositories are known, opened: what each one computes
from the registry and the index. A catalog is what such queries are asked of.
-/

import ArtifactCatalog.Query.Answers

namespace ArtifactCatalog

/-! ### Queries of a caller whose repositories are known -/

namespace QuerySources

variable {sources : QuerySources} {observed : List String}

def listedVersion (group artifact : String) (entry : String × String) : LocatedArtifact where
  repository := entry.1
  group := group
  artifact := artifact
  version := entry.2
  packaging := versionListingPackaging

def referringArtifact (entry : String × Referrer) : LocatedArtifact where
  repository := entry.1
  group := entry.2.namespaceName
  artifact := entry.2.project
  version := entry.2.version
  packaging := ""

theorem quickSearch_eq (sees : sources.observed = .ok observed) (nonempty : observed ≠ [])
    {query : String} {found : List ProjectMatch}
    (answered : sources.search query observed .all = .ok found) :
    sources.quickSearch query =
      .ok ((releasesOf found).map (sources.registry.locate observed)) := by
  cases observed with
  | nil => exact absurd rfl nonempty
  | cons repository rest =>
      unfold quickSearch
      rw [sees]
      change (asQueryAnswer (sources.search query (repository :: rest) .all)).bind _ = _
      rw [answered]
      rfl

theorem quickSearch_nil (sees : sources.observed = .ok []) (query : String) :
    sources.quickSearch query = .ok [] := by
  unfold quickSearch
  rw [sees]
  rfl

theorem listVersions_eq (sees : sources.observed = .ok observed) (group artifact : String) :
    sources.listVersions group artifact =
      .ok (sources.order.sortOn LocatedArtifact.version
        ((sources.registry.versionsAcross observed group artifact).map
          (listedVersion group artifact))) := by
  unfold listVersions
  rw [sees]
  rfl

theorem dependencies_eq (sees : sources.observed = .ok observed) (release : Release) :
    sources.dependencies release =
      match sources.registry.dependencies? observed release with
      | some dependencies => .ok dependencies
      | none => .error (.artifactNotFound release) := by
  unfold QuerySources.dependencies
  rw [sees]
  rfl

theorem dependencies_eq_ok_iff (sees : sources.observed = .ok observed) {release : Release}
    {dependencies : List Dependency} :
    sources.dependencies release = .ok dependencies ↔
      sources.registry.dependencies? observed release = some dependencies := by
  rw [dependencies_eq sees]
  cases sources.registry.dependencies? observed release with
  | none => simp
  | some declared => simp

theorem expansion_eq (sees : sources.observed = .ok observed) (release : Release)
    (limit : UInt64) :
    sources.expansion release limit =
      if (sources.registry.dependencies? observed release).isSome = true then
        .ok ((DeclaredGraph.ofRegistry sources.registry observed).expand release limit)
      else .error (.artifactNotFound release) := by
  unfold expansion
  rw [sees]
  rfl

theorem referrers_eq (sees : sources.observed = .ok observed) (release : Release) :
    sources.referrers release =
      .ok ((sources.registry.referrersAcross observed release).map Prod.snd) := by
  unfold referrers
  rw [sees]
  rfl

theorem referringArtifacts_eq (sees : sources.observed = .ok observed) (release : Release) :
    sources.referringArtifacts release =
      .ok ((sources.registry.referrersAcross observed release).map referringArtifact) := by
  unfold referringArtifacts
  rw [sees]
  rfl

end QuerySources

/-! ### Catalogs -/

structure Catalog where
  index : SearchIndex := {}
  registry : Registry := {}
  store : HoldingStore := {}

namespace Catalog

def sources (catalog : Catalog) (order : VersionOrder) (observed : List String) : QuerySources :=
  { QuerySources.ofStores observed catalog.index catalog.registry catalog.store with order }

theorem sources_observed (catalog : Catalog) (order : VersionOrder) (observed : List String) :
    (catalog.sources order observed).observed = .ok observed := rfl

theorem sources_registry (catalog : Catalog) (order : VersionOrder) (observed : List String) :
    (catalog.sources order observed).registry = catalog.registry := rfl

theorem sources_order (catalog : Catalog) (order : VersionOrder) (observed : List String) :
    (catalog.sources order observed).order = order := rfl

theorem quickSearch_sources (catalog : Catalog) (order : VersionOrder) {observed : List String}
    (nonempty : observed ≠ []) (query : String) :
    (catalog.sources order observed).quickSearch query =
      .ok ((QuerySources.releasesOf (catalog.index.search query observed .all)).map
        (catalog.registry.locate observed)) :=
  QuerySources.quickSearch_eq (catalog.sources_observed order observed) nonempty rfl

end Catalog

end ArtifactCatalog
