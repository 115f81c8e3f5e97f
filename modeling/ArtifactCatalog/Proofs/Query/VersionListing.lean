/-
The versions of a project as a caller sees them: those that the observed
repositories which do not fail have on record, arranged by version. In another
order of the repositories only versions of equal rank stand in another order.
-/

import ArtifactCatalog.Proofs.Query.Catalog
import ArtifactCatalog.Proofs.Query.Holders
import ArtifactCatalog.Proofs.Version.Ranking

namespace ArtifactCatalog

namespace Registry

/-- The versions on record in the repositories that do not fail, repository after
repository, each with its repository. -/
def recordedVersions (registry : Registry) (repositories : List String)
    (group artifact : String) : List (String × String) :=
  (repositories.filter fun repository => decide (repository ∉ registry.failing)).flatMap
    fun repository =>
      ((registry.versions.lookup { repository, group, artifact }).getD []).map (repository, ·)

theorem reported_answer {α : Type} (registry : Registry) (known : String → List α)
    (repositories : List String) :
    reported (fun repository => registry.answer repository (known repository)) repositories =
      (repositories.filter fun repository => decide (repository ∉ registry.failing)).flatMap
        fun repository => (known repository).map (repository, ·) := by
  unfold reported
  induction repositories with
  | nil => rfl
  | cons repository rest ih =>
      rw [List.flatMap_cons, ih]
      unfold answer
      dsimp only
      by_cases fails : repository ∈ registry.failing
      · rw [if_pos fails, List.filter_cons_of_neg (by simpa using fails)]
        rfl
      · rw [if_neg fails, List.filter_cons_of_pos (by simpa using fails), List.flatMap_cons]

theorem versionsAcross_eq_recordedVersions (registry : Registry) (repositories : List String)
    (group artifact : String) :
    registry.versionsAcross repositories group artifact =
      registry.recordedVersions repositories group artifact := by
  rw [versionsAcross_eq]
  exact registry.reported_answer _ repositories

theorem recordedVersions_perm (registry : Registry) {repositories others : List String}
    (perm : repositories.Perm others) (group artifact : String) :
    (registry.recordedVersions repositories group artifact).Perm
      (registry.recordedVersions others group artifact) :=
  (perm.filter _).flatMap_right _

end Registry

namespace Catalog

def unarrangedVersions (catalog : Catalog) (observed : List String) (group artifact : String) :
    List LocatedArtifact :=
  (catalog.registry.recordedVersions observed group artifact).map
    (QuerySources.listedVersion group artifact)

theorem listVersions_sources (catalog : Catalog) (order : VersionOrder) (observed : List String)
    (group artifact : String) :
    (catalog.sources order observed).listVersions group artifact =
      .ok (order.sortOn LocatedArtifact.version
        (catalog.unarrangedVersions observed group artifact)) := by
  rw [QuerySources.listVersions_eq (catalog.sources_observed order observed), sources_registry,
    sources_order, Registry.versionsAcross_eq_recordedVersions]
  rfl

theorem map_version_unarrangedVersions (catalog : Catalog) (observed : List String)
    (group artifact : String) :
    (catalog.unarrangedVersions observed group artifact).map LocatedArtifact.version =
      (catalog.registry.recordedVersions observed group artifact).map Prod.snd := by
  unfold unarrangedVersions
  rw [List.map_map]
  rfl

/-- The listing holds what is on record and nothing else, arranged by version in
the one possible way, and its versions are the versions on record, sorted. -/
theorem listVersions_arranges (catalog : Catalog) (observed : List String)
    (group artifact : String) :
    ∃ listed, (catalog.sources .maven observed).listVersions group artifact = .ok listed ∧
      VersionOrder.maven.Arranges LocatedArtifact.version
        (catalog.unarrangedVersions observed group artifact) listed ∧
      (∀ other, VersionOrder.maven.Arranges LocatedArtifact.version
        (catalog.unarrangedVersions observed group artifact) other → other = listed) ∧
      listed.map LocatedArtifact.version =
        VersionOrder.maven.sort
          ((catalog.registry.recordedVersions observed group artifact).map Prod.snd) := by
  have arranges := VersionOrder.arranges_sortOn .maven LocatedArtifact.version
    (catalog.unarrangedVersions observed group artifact)
  refine ⟨_, catalog.listVersions_sources .maven observed group artifact, arranges, ?_, ?_⟩
  · intro other alsoArranges
    exact alsoArranges.unique arranges
  · rw [VersionOrder.map_sortOn, map_version_unarrangedVersions]

/-- The order of the repositories does not change the ranking of the versions. -/
theorem listVersions_ranksAlike (catalog : Catalog) {observed others : List String}
    (perm : observed.Perm others) (group artifact : String) :
    ∃ listed other, (catalog.sources .maven observed).listVersions group artifact = .ok listed ∧
      (catalog.sources .maven others).listVersions group artifact = .ok other ∧
      VersionOrder.maven.RanksAlike LocatedArtifact.version listed other := by
  have arranges := VersionOrder.arranges_sortOn .maven LocatedArtifact.version
    (catalog.unarrangedVersions observed group artifact)
  have alsoArranges := VersionOrder.arranges_sortOn .maven LocatedArtifact.version
    (catalog.unarrangedVersions others group artifact)
  have sameEntries : (catalog.unarrangedVersions observed group artifact).Perm
      (catalog.unarrangedVersions others group artifact) :=
    (catalog.registry.recordedVersions_perm perm group artifact).map _
  refine ⟨_, _, catalog.listVersions_sources .maven observed group artifact,
    catalog.listVersions_sources .maven others group artifact, ?_⟩
  apply ranksAlike_of_ascending
  · exact (arranges.perm.trans sameEntries).trans alsoArranges.perm.symm
  · exact arranges.ascending
  · exact alsoArranges.ascending

def aliasedCatalog : Catalog where
  registry :=
    ((({} : Registry).addRelease "main" "org" "lib" { version := "1.0" }).addRelease
      "spare" "org" "lib" { version := "1-ga" }).addRelease "spare" "org" "lib" { version := "1" }

theorem listVersions_ranksAlike_aliasedCatalog :
    ["main", "spare"].Perm ["spare", "main"] ∧ ∃ listed other,
      (aliasedCatalog.sources .maven ["main", "spare"]).listVersions "org" "lib" = .ok listed ∧
      (aliasedCatalog.sources .maven ["spare", "main"]).listVersions "org" "lib" = .ok other ∧
      VersionOrder.maven.RanksAlike LocatedArtifact.version listed other := by
  have perm : ["main", "spare"].Perm ["spare", "main"] := List.Perm.swap "spare" "main" []
  exact ⟨perm, aliasedCatalog.listVersions_ranksAlike perm "org" "lib"⟩

end Catalog

end ArtifactCatalog
