/-
Free search is exact. Its answer holds one artifact for each release that some
observed entry of the index finds, in the order in which the projects and then
their releases first match, each from the first observed repository that holds
the release.
-/

import ArtifactCatalog.Proofs.Query.Catalog
import ArtifactCatalog.Proofs.Query.Holders
import ArtifactCatalog.Proofs.Search.ProjectHits

namespace ArtifactCatalog

/-! ### The order of first matches -/

/-- Among the entries that pass the test, the project of one release is named
before that of the other, or it is the same and the release itself is. -/
def NamedBefore (test : IndexEntry → Bool) (entries : List IndexEntry)
    (earlier later : Release) : Prop :=
  firstPlace test IndexEntry.project entries earlier.project <
      firstPlace test IndexEntry.project entries later.project ∨
    earlier.project = later.project ∧
      firstPlace test IndexEntry.release entries earlier <
        firstPlace test IndexEntry.release entries later

theorem NamedBefore.ne {test : IndexEntry → Bool} {entries : List IndexEntry}
    {earlier later : Release} (before : NamedBefore test entries earlier later) :
    earlier ≠ later := by
  intro same
  subst same
  rcases before with project | release
  · exact Nat.lt_irrefl _ project
  · exact Nat.lt_irrefl _ release.2

theorem firstPlace_release_of_project (test : IndexEntry → Bool) (entries : List IndexEntry)
    {release : Release} {project : String × String} (within : release.project = project) :
    firstPlace (fun entry => entry.project == project && test entry) IndexEntry.release entries
        release =
      firstPlace test IndexEntry.release entries release := by
  unfold firstPlace
  congr 1
  funext entry
  dsimp only
  by_cases same : entry.release = release
  · have here : entry.project = project := by
      rw [← within, ← same]
      rfl
    rw [here, beq_self_eq_true, Bool.true_and]
  · rw [beq_eq_false_iff_ne.2 same, Bool.and_false, Bool.and_false]

namespace QuerySources

/-! ### Releases of grouped matches -/

theorem releasesOf_groupedMatches (entries : List IndexEntry) :
    releasesOf (groupedMatches entries) =
      (entries.map IndexEntry.project).eraseDups.flatMap fun project =>
        ((entries.filter fun entry => entry.project == project).map (·.release)).eraseDups := by
  unfold releasesOf groupedMatches
  rw [List.flatMap_map]
  congr 1
  funext project
  have injective : Function.Injective fun version =>
      ({ group := project.1, artifact := project.2, version } : Release) := by
    intro left right same
    exact congrArg Release.version same
  unfold matchOf
  dsimp only
  rw [← eraseDups_map injective, List.map_map]
  congr 1
  apply List.map_congr_left
  intro entry member
  have same : entry.project = project := beq_iff_eq.1 (List.mem_filter.1 member).2
  rw [← same]
  rfl

theorem mem_releasesOf_groupedMatches {entries : List IndexEntry} {release : Release} :
    release ∈ releasesOf (groupedMatches entries) ↔ ∃ entry ∈ entries, entry.release = release := by
  rw [releasesOf_groupedMatches, List.mem_flatMap]
  constructor
  · rintro ⟨project, _isProject, member⟩
    obtain ⟨entry, isEntry, same⟩ := List.mem_map.1 (List.mem_eraseDups.1 member)
    exact ⟨entry, (List.mem_filter.1 isEntry).1, same⟩
  · rintro ⟨entry, isEntry, same⟩
    refine ⟨entry.project, List.mem_eraseDups.2 (List.mem_map_of_mem isEntry), ?_⟩
    rw [List.mem_eraseDups, ← same]
    exact List.mem_map_of_mem (List.mem_filter.2 ⟨isEntry, beq_self_eq_true _⟩)

theorem pairwise_releasesOf_groupedMatches (test : IndexEntry → Bool)
    (entries : List IndexEntry) :
    (releasesOf (groupedMatches (entries.filter test))).Pairwise (NamedBefore test entries) := by
  have inProject : ∀ project, ∀ release ∈ (((entries.filter test).filter fun entry =>
      entry.project == project).map (·.release)).eraseDups, release.project = project := by
    intro project release member
    obtain ⟨entry, isEntry, same⟩ := List.mem_map.1 (List.mem_eraseDups.1 member)
    rw [← same]
    exact beq_iff_eq.1 (List.mem_filter.1 isEntry).2
  rw [releasesOf_groupedMatches, List.pairwise_flatMap]
  constructor
  · intro project _isProject
    have places := pairwise_firstPlace (fun entry => entry.project == project && test entry)
      IndexEntry.release entries
    rw [← List.filter_filter] at places
    apply places.imp_of_mem
    intro earlier later isEarlier isLater less
    have first := inProject project earlier isEarlier
    have second := inProject project later isLater
    rw [firstPlace_release_of_project test entries first,
      firstPlace_release_of_project test entries second] at less
    exact Or.inr ⟨first.trans second.symm, less⟩
  · apply (pairwise_firstPlace test IndexEntry.project entries).imp
    intro project next less earlier isEarlier later isLater
    left
    rw [inProject project earlier isEarlier, inProject next later isLater]
    exact less

end QuerySources

/-! ### The answer -/

namespace Catalog

structure FindsExactly (catalog : Catalog) (observed : List String) (query : String)
    (found : List LocatedArtifact) : Prop where
  once : (found.map (·.release)).Nodup
  covers : ∀ release, release ∈ found.map (·.release) ↔
    ∃ entry ∈ catalog.index.entries, entry.FoundBy query observed ∧ entry.release = release
  ordered : (found.map (·.release)).Pairwise
    (NamedBefore (fun entry => entry.FoundBy query observed) catalog.index.entries)
  located : ∀ artifact ∈ found, catalog.registry.Locates observed artifact
  observed : ∀ artifact ∈ found, artifact.repository ∈ observed

variable {observed : List String}

theorem quickSearch_findsExactly (catalog : Catalog) (order : VersionOrder)
    (nonempty : observed ≠ []) (query : String) :
    ∃ found, (catalog.sources order observed).quickSearch query = .ok found ∧
      catalog.FindsExactly observed query found := by
  have releases : ((QuerySources.releasesOf (catalog.index.search query observed .all)).map
      (catalog.registry.locate observed)).map (·.release) =
        QuerySources.releasesOf (groupedMatches (catalog.index.entries.filter fun entry =>
          entry.FoundBy query observed)) := by
    unfold SearchIndex.search
    rw [PageWindow.select_all, SearchIndex.allMatches_eq, List.map_map]
    apply (List.map_congr_left ?_).trans (List.map_id' _)
    intro release _member
    exact Registry.release_locate catalog.registry observed release
  have ordered := QuerySources.pairwise_releasesOf_groupedMatches
    (fun entry => entry.FoundBy query observed) catalog.index.entries
  have located : ∀ artifact ∈ (QuerySources.releasesOf
      (catalog.index.search query observed .all)).map (catalog.registry.locate observed),
        catalog.registry.Locates observed artifact := by
    intro artifact member
    obtain ⟨release, _isFound, rfl⟩ := List.mem_map.1 member
    exact Registry.locates_locate catalog.registry nonempty release
  refine ⟨_, catalog.quickSearch_sources order nonempty query, ?_, ?_, ?_, located, ?_⟩
  · rw [releases]
    exact ordered.imp NamedBefore.ne
  · intro release
    rw [releases, QuerySources.mem_releasesOf_groupedMatches]
    simp only [List.mem_filter, decide_eq_true_eq, and_assoc]
  · rw [releases]
    exact ordered
  · intro artifact member
    exact (located artifact member).repository_mem

/-- Two versions of one project, one of them found twice, with a project between
them that is not observed. -/
def mirroredCatalog : Catalog where
  index := (((({} : SearchIndex).add "main" { group := "org", artifact := "app", version := "1" }
    []).add "hidden" { group := "org", artifact := "lib", version := "1" } []).add
      "mirror" { group := "org", artifact := "app", version := "2" } []).add
        "mirror" { group := "org", artifact := "app", version := "1" } []
  registry := (({} : Registry).fail "main").addRelease "mirror" "org" "app" { version := "1" }

theorem quickSearch_findsExactly_mirroredCatalog :
    ["main", "mirror"] ≠ [] ∧
      ∃ found, (mirroredCatalog.sources .maven ["main", "mirror"]).quickSearch " APP " =
          .ok found ∧
        mirroredCatalog.FindsExactly ["main", "mirror"] " APP " found := by
  have nonempty : ["main", "mirror"] ≠ [] := List.cons_ne_nil _ _
  exact ⟨nonempty, mirroredCatalog.quickSearch_findsExactly .maven nonempty " APP "⟩

end Catalog

end ArtifactCatalog
