/-
The listed versions of a project are the releases that a caller can look up. A
repository lists a version when it has the metadata of the release, so the first entry
of a version names the repository that answers every lookup of it.
-/

import ArtifactCatalog.Proofs.Expansion.Exactness
import ArtifactCatalog.Proofs.Query.VersionListing
import ArtifactCatalog.Proofs.Registry.Bookkeeping
import ArtifactCatalog.Query.Lookups

namespace ArtifactCatalog

/-! ### Registries -/

namespace Registry

variable {registry : Registry} {repositories : List String} {release : Release}
  {repository : String} {metadata : ReleaseMetadata}

theorem BooksAgree.find?_knownVersions (agree : registry.BooksAgree) (repository : String)
    (release : Release) :
    ((registry.knownVersions repository release.group release.artifact).map (repository, ·)).find?
        (fun entry => entry.2 == release.version) =
      (registry.metadata.lookup { repository, release }).map fun _ =>
        (repository, release.version) := by
  rw [List.find?_map]
  cases found : (registry.knownVersions repository release.group release.artifact).find?
      ((fun entry => entry.2 == release.version) ∘ (repository, ·)) with
  | none =>
      cases known : registry.metadata.lookup { repository, release } with
      | none => rfl
      | some metadata =>
          have listed := (agree repository release).2 ⟨metadata, known⟩
          exact absurd (beq_self_eq_true release.version) (List.find?_eq_none.1 found _ listed)
  | some version =>
      have listed := List.mem_of_find?_eq_some found
      have isFound := List.find?_some found
      have same : version = release.version := beq_iff_eq.1 isFound
      rw [same] at listed
      obtain ⟨metadata, known⟩ := (agree repository release).1 listed
      rw [known, same]
      rfl

/-- The first repository that reports a version is the first that holds the release. -/
theorem BooksAgree.find?_versionsAcross (agree : registry.BooksAgree)
    (repositories : List String) (release : Release) :
    (registry.versionsAcross repositories release.group release.artifact).find?
        (fun entry => entry.2 == release.version) =
      (registry.firstHeld? repositories release).map fun first => (first.1, release.version) := by
  unfold versionsAcross firstHeld?
  rw [List.find?_flatMap, List.map_findSome?]
  congr 1
  funext repository
  rw [Function.comp_apply, Option.map_map]
  unfold versionsOf held? release? answer
  by_cases fails : repository ∈ registry.failing
  · rw [if_pos fails, if_pos fails]
    rfl
  · rw [if_neg fails, if_neg fails]
    exact agree.find?_knownVersions repository release

theorem asked_of_firstHeld?
    (first : registry.firstHeld? repositories release = some (repository, metadata)) :
    ∃ earlier, registry.asked release repositories = earlier ++ [repository] ∧
      ∀ other ∈ earlier, ∀ metadata, ¬ registry.Holds other release metadata := by
  obtain ⟨earlier, later, split, held, before⟩ := firstHeld?_eq_some_iff.1 first
  refine ⟨earlier, ?_, fun other isEarlier => held?_eq_none_iff.1 (before other isEarlier)⟩
  subst split
  clear first
  induction earlier with
  | nil =>
      change (if (registry.held? repository release).isSome = true then _ else _) = _
      rw [held]
      rfl
  | cons other rest ih =>
      change (if (registry.held? other release).isSome = true then _
        else other :: registry.asked release (rest ++ repository :: later)) = _
      rw [before other List.mem_cons_self,
        ih fun next isNext => before next (List.mem_cons_of_mem other isNext)]
      rfl

end Registry

/-! ### Catalogs -/

namespace Catalog

variable {catalog : Catalog} {observed : List String} {release : Release} {repository : String}
  {metadata : ReleaseMetadata}

/-- Every answer about a release comes from the metadata of one repository: it is asked
last, and no repository asked before it holds the release. -/
structure SuppliedBy (catalog : Catalog) (observed : List String) (release : Release)
    (repository : String) (metadata : ReleaseMetadata) : Prop where
  holds : catalog.registry.Holds repository release metadata
  asked : ∃ earlier,
    (catalog.sources .maven observed).dependenciesLookups release =
      (earlier ++ [repository]).map (Lookup.release · release) ∧
    ∀ other ∈ earlier, ∀ metadata, ¬ catalog.registry.Holds other release metadata
  dependencies : (catalog.sources .maven observed).dependencies release =
    .ok metadata.normalizedDependencies
  root : ∀ limit, ∃ tree later,
    (catalog.sources .maven observed).expansion release limit = .ok tree ∧
      tree.nodes = ⟨release, 0, metadata.normalizedDependencies, true⟩ :: later
  located : ∀ query found, (catalog.sources .maven observed).quickSearch query = .ok found →
    ∀ artifact ∈ found, artifact.release = release → artifact.repository = repository ∧
      artifact.packaging = metadata.packaging?.getD "jar"

theorem suppliedBy_of_firstHeld?
    (first : catalog.registry.firstHeld? observed release = some (repository, metadata)) :
    catalog.SuppliedBy observed release repository metadata := by
  have declared : catalog.registry.dependencies? observed release =
      some metadata.normalizedDependencies := by
    unfold Registry.dependencies?
    rw [first]
    rfl
  refine ⟨Registry.held?_eq_some_iff.1 (Registry.held?_of_firstHeld? first), ?_, ?_, ?_, ?_⟩
  · obtain ⟨earlier, asked, before⟩ := Registry.asked_of_firstHeld? first
    refine ⟨earlier, ?_, before⟩
    rw [← asked]
    rfl
  · exact (QuerySources.dependencies_eq_ok_iff (catalog.sources_observed .maven observed)).2 declared
  · intro limit
    obtain ⟨later, split⟩ := DeclaredGraph.nodes_expand_cons
      (DeclaredGraph.ofRegistry catalog.registry observed) release limit
    refine ⟨_, later, ?_, split.trans ?_⟩
    · rw [QuerySources.expansion_eq (catalog.sources_observed .maven observed)]
      exact if_pos (by rw [sources_registry, declared]; rfl)
    · congr 1
      unfold DeclaredGraph.node DeclaredGraph.dependencies DeclaredGraph.ofRegistry
      dsimp only
      rw [declared]
      rfl
  · intro query found answered artifact member same
    by_cases empty : observed = []
    · subst empty
      cases first
    · rw [catalog.quickSearch_sources .maven empty] at answered
      cases answered
      obtain ⟨listed, _isFound, rfl⟩ := List.mem_map.1 member
      rw [Registry.release_locate] at same
      rw [same, Registry.locate_of_firstHeld? first]
      exact ⟨rfl, rfl⟩

theorem find?_arrangedVersions (agree : catalog.registry.BooksAgree) (observed : List String)
    (release : Release) :
    (VersionOrder.maven.sortOn LocatedArtifact.version
        (catalog.unarrangedVersions observed release.group release.artifact)).find?
        (fun entry => entry.version == release.version) =
      (catalog.registry.firstHeld? observed release).map fun first =>
        QuerySources.listedVersion release.group release.artifact (first.1, release.version) := by
  have arranges := VersionOrder.arranges_sortOn .maven LocatedArtifact.version
    (catalog.unarrangedVersions observed release.group release.artifact)
  rw [arranges.find?_version]
  unfold unarrangedVersions
  rw [← Registry.versionsAcross_eq_recordedVersions, List.find?_map]
  change ((catalog.registry.versionsAcross observed release.group release.artifact).find?
    fun entry => entry.2 == release.version).map _ = _
  rw [agree.find?_versionsAcross, Option.map_map]
  rfl

/-- After any steps, a release has dependencies to look up exactly when its version is
listed, and the first entry of the version names the repository that supplies it. -/
theorem listVersions_names_supplier (steps : List CatalogStep) (observed : List String)
    (release : Release) :
    ∃ listed, ((run {} steps).sources .maven observed).listVersions release.group
        release.artifact = .ok listed ∧
      ((∃ dependencies,
          ((run {} steps).sources .maven observed).dependencies release = .ok dependencies) ↔
        ∃ entry ∈ listed, entry.version = release.version) ∧
      ∀ entry, listed.find? (fun entry => entry.version == release.version) = some entry →
        ∃ metadata, (run {} steps).SuppliedBy observed release entry.repository metadata := by
  have agree : (run {} steps).registry.BooksAgree :=
    booksAgree_run Registry.booksAgree_empty steps
  have first := find?_arrangedVersions agree observed release
  refine ⟨_, listVersions_sources (run {} steps) .maven observed release.group release.artifact,
    ?_, ?_⟩
  · have listed := congrArg Option.isSome first
    rw [Option.isSome_map, Bool.eq_iff_iff, List.find?_isSome] at listed
    simp only [beq_iff_eq] at listed
    rw [listed, Option.isSome_iff_exists]
    simp only [QuerySources.dependencies_eq_ok_iff ((run {} steps).sources_observed .maven observed)]
    change (∃ dependencies, (run {} steps).registry.dependencies? observed release =
      some dependencies) ↔ _
    rw [← Option.isSome_iff_exists, ← Option.isSome_iff_exists]
    unfold Registry.dependencies?
    rw [Option.isSome_map]
  · intro entry isFirst
    rw [first] at isFirst
    obtain ⟨⟨repository, metadata⟩, held, same⟩ := Option.map_eq_some_iff.1 isFirst
    subst same
    exact ⟨metadata, suppliedBy_of_firstHeld? held⟩

end Catalog

end ArtifactCatalog
