/-
The two books of a registry, the versions of each project and the metadata of each
release, are kept in step: a repository lists a version exactly when it has the
metadata of that release.
-/

import ArtifactCatalog.Proofs.Query.Agreement
import Mathlib.Data.List.Basic

namespace ArtifactCatalog

namespace Registry

/-- The versions of a project that a repository has on record, also while it fails. -/
def knownVersions (registry : Registry) (repository group artifact : String) : List String :=
  (registry.versions.lookup { repository, group, artifact }).getD []

def BooksAgree (registry : Registry) : Prop :=
  ∀ (repository : String) (release : Release),
    release.version ∈ registry.knownVersions repository release.group release.artifact ↔
      ∃ metadata, registry.metadata.lookup { repository, release } = some metadata

theorem booksAgree_empty : BooksAgree {} := by
  intro repository release
  simp [knownVersions]

variable {registry : Registry}

def metadataPlace (repository group artifact : String) (metadata : ReleaseMetadata) : ReleasePlace where
  repository := repository
  release := { group, artifact, version := metadata.version }

theorem knownVersions_addRelease (registry : Registry) (repository group artifact : String)
    (metadata : ReleaseMetadata) :
    (registry.addRelease repository group artifact metadata).knownVersions repository group
        artifact =
      if metadata.version ∈ registry.knownVersions repository group artifact then
        registry.knownVersions repository group artifact
      else registry.knownVersions repository group artifact ++ [metadata.version] := by
  unfold knownVersions addRelease
  dsimp only
  rw [lookup_putEntry, if_pos rfl]
  rfl

theorem knownVersions_addRelease_of_ne (registry : Registry)
    {repository group artifact other name project : String}
    (elsewhere : (⟨other, name, project⟩ : ProjectPlace) ≠ ⟨repository, group, artifact⟩)
    (metadata : ReleaseMetadata) :
    (registry.addRelease repository group artifact metadata).knownVersions other name project =
      registry.knownVersions other name project := by
  unfold knownVersions addRelease
  dsimp only
  rw [lookup_putEntry, if_neg elsewhere]

theorem mem_knownVersions_addRelease (registry : Registry) (repository group artifact : String)
    (metadata : ReleaseMetadata) (other : String) (release : Release) :
    release.version ∈ (registry.addRelease repository group artifact metadata).knownVersions
        other release.group release.artifact ↔
      { repository := other, release } = metadataPlace repository group artifact metadata ∨
        release.version ∈ registry.knownVersions other release.group release.artifact := by
  obtain ⟨name, project, version⟩ := release
  unfold metadataPlace
  dsimp only
  by_cases here : (⟨other, name, project⟩ : ProjectPlace) = ⟨repository, group, artifact⟩
  · cases here
    have sameVersion : ({ repository, release := { group, artifact, version } } : ReleasePlace) =
        { repository, release := { group, artifact, version := metadata.version } } ↔
          version = metadata.version := by
      simp
    rw [knownVersions_addRelease, sameVersion]
    split
    · rename_i known
      refine (or_iff_right_of_imp ?_).symm
      rintro rfl
      exact known
    · rw [List.mem_append, List.mem_singleton, or_comm]
  · rw [knownVersions_addRelease_of_ne registry here]
    refine (or_iff_right ?_).symm
    intro same
    cases same
    exact here rfl

theorem lookup_metadata_addRelease (registry : Registry) (repository group artifact : String)
    (metadata : ReleaseMetadata) (place : ReleasePlace) :
    (registry.addRelease repository group artifact metadata).metadata.lookup place =
      if place = metadataPlace repository group artifact metadata then some metadata
      else registry.metadata.lookup place :=
  lookup_putEntry _ _ _ _

theorem BooksAgree.addRelease (agree : registry.BooksAgree) (repository group artifact : String)
    (metadata : ReleaseMetadata) :
    (registry.addRelease repository group artifact metadata).BooksAgree := by
  intro other release
  rw [mem_knownVersions_addRelease, lookup_metadata_addRelease, agree other release]
  by_cases here : { repository := other, release } = metadataPlace repository group artifact metadata
  · rw [if_pos here]
    exact iff_of_true (.inl here) ⟨metadata, rfl⟩
  · rw [if_neg here, or_iff_right here]

end Registry

namespace Catalog

variable {catalog : Catalog}

theorem booksAgree_step (agree : catalog.registry.BooksAgree) (step : CatalogStep) :
    (catalog.step step).registry.BooksAgree := by
  cases step with
  | index repository coordinate classNames => exact agree
  | addRelease repository group artifact metadata =>
      exact agree.addRelease repository group artifact metadata
  | addReferrer repository release referrer => exact agree
  | fail repository => exact agree

theorem booksAgree_run (agree : catalog.registry.BooksAgree) (steps : List CatalogStep) :
    (catalog.run steps).registry.BooksAgree := by
  induction steps generalizing catalog with
  | nil => exact agree
  | cons step rest ih => exact ih (booksAgree_step agree step)

end Catalog

end ArtifactCatalog
