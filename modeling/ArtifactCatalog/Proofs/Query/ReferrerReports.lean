/-
Who refers to a release. Every referrer that a run adds to the release in a repository is
reported, in the order of the run and as often as it was added, unless the repository
fails. The artifacts of the referrers follow them place by place, each in the repository
that reports it.
-/

import ArtifactCatalog.Proofs.Query.VersionListing
import ArtifactCatalog.Proofs.Registry.History

namespace ArtifactCatalog

deriving instance DecidableEq for CatalogStep

/-! ### Steps that add a referrer -/

def CatalogStep.addedReferrer? (step : CatalogStep) (repository : String) (release : Release) :
    Option Referrer :=
  match step with
  | .addReferrer place target referrer =>
    if place = repository ∧ target = release then some referrer else none
  | _ => none

def addedReferrers (steps : List CatalogStep) (repository : String) (release : Release) :
    List Referrer :=
  steps.filterMap (·.addedReferrer? repository release)

def intact (steps : List CatalogStep) (repositories : List String) : List String :=
  repositories.filter fun repository => decide (CatalogStep.fail repository ∉ steps)

/-! ### The referrers on record -/

/-- The referrers that a repository has on record of a release, also while it fails. -/
def Registry.knownReferrers (registry : Registry) (repository : String) (release : Release) :
    List Referrer :=
  (registry.referrers.lookup { repository, release }).getD []

namespace Catalog

theorem knownReferrers_step (catalog : Catalog) (step : CatalogStep) (repository : String)
    (release : Release) :
    (catalog.step step).registry.knownReferrers repository release =
      catalog.registry.knownReferrers repository release ++
        (step.addedReferrer? repository release).toList := by
  cases step with
  | index _ _ _ => exact (List.append_nil _).symm
  | addRelease _ _ _ _ => exact (List.append_nil _).symm
  | addReferrer place target referrer =>
      change (List.lookup _ (putEntry _ _ catalog.registry.referrers)).getD [] = _
      unfold CatalogStep.addedReferrer?
      dsimp only
      rw [lookup_putEntry]
      by_cases here : place = repository ∧ target = release
      · obtain ⟨rfl, rfl⟩ := here
        rw [if_pos rfl, if_pos ⟨rfl, rfl⟩]
        rfl
      · have elsewhere : ({ repository, release } : ReleasePlace) ≠ ⟨place, target⟩ := by
          intro same
          cases same
          exact here ⟨rfl, rfl⟩
        rw [if_neg elsewhere, if_neg here]
        exact (List.append_nil _).symm
  | fail _ => exact (List.append_nil _).symm

/-- A run puts what it adds behind what is on record, in the order of its steps. -/
theorem knownReferrers_run (catalog : Catalog) (steps : List CatalogStep) (repository : String)
    (release : Release) :
    (catalog.run steps).registry.knownReferrers repository release =
      catalog.registry.knownReferrers repository release ++
        addedReferrers steps repository release := by
  induction steps generalizing catalog with
  | nil => exact (List.append_nil _).symm
  | cons step rest ih =>
      have later := ih (catalog.step step)
      rw [knownReferrers_step, List.append_assoc] at later
      refine later.trans (congrArg _ ?_)
      unfold addedReferrers
      rw [List.filterMap_cons]
      cases step.addedReferrer? repository release with
      | none => rfl
      | some referrer => rfl

theorem knownReferrers_run_empty (steps : List CatalogStep) (repository : String)
    (release : Release) :
    (run {} steps).registry.knownReferrers repository release =
      addedReferrers steps repository release :=
  knownReferrers_run {} steps repository release

theorem filter_not_failing_run (steps : List CatalogStep) (repositories : List String) :
    (repositories.filter fun repository =>
      decide (repository ∉ (run {} steps).registry.failing)) = intact steps repositories := by
  apply List.filter_congr
  intro repository _
  rw [decide_eq_decide, (keepsRecord_run steps).failing]

/-- What all intact repositories of a list report after a run, each referrer with its repository. -/
theorem referrersAcross_run (steps : List CatalogStep) (repositories : List String)
    (release : Release) :
    (run {} steps).registry.referrersAcross repositories release =
      (intact steps repositories).flatMap fun repository =>
        (addedReferrers steps repository release).map (repository, ·) := by
  rw [Registry.referrersAcross_eq]
  refine ((run {} steps).registry.reported_answer _ repositories).trans ?_
  rw [filter_not_failing_run]
  congr 1
  funext repository
  exact congrArg _ (knownReferrers_run_empty steps repository release)

/-! ### Reports -/

structure StandsFor (located : LocatedArtifact) (referrer : Referrer) : Prop where
  group : located.group = referrer.namespaceName
  artifact : located.artifact = referrer.project
  version : located.version = referrer.version
  packaging : located.packaging = ""

/-- What a caller of the observed repositories is told of a release after a run: from one
intact repository after the other all referrers that the run added there, and as many
artifacts, each for the referrer at its place and in the repository that reports it. -/
structure ReportsReferrers (steps : List CatalogStep) (observed : List String)
    (release : Release) (referrers : List Referrer) (artifacts : List LocatedArtifact) : Prop where
  complete : referrers = (intact steps observed).flatMap fun repository =>
    addedReferrers steps repository release
  placeByPlace : List.Forall₂ StandsFor artifacts referrers
  reporters : artifacts.map LocatedArtifact.repository =
    (intact steps observed).flatMap fun repository =>
      List.replicate (addedReferrers steps repository release).length repository

theorem reportsReferrers_map (steps : List CatalogStep) (observed : List String)
    (release : Release) :
    ReportsReferrers steps observed release
      (((run {} steps).registry.referrersAcross observed release).map Prod.snd)
      (((run {} steps).registry.referrersAcross observed release).map
        QuerySources.referringArtifact) where
  complete := by
    rw [referrersAcross_run, List.map_flatMap]
    congr 1
    funext repository
    rw [List.map_map]
    exact List.map_id _
  placeByPlace := by
    rw [List.forall₂_map_left_iff, List.forall₂_map_right_iff, List.forall₂_same]
    intro entry _
    exact ⟨rfl, rfl, rfl, rfl⟩
  reporters := by
    rw [referrersAcross_run, List.map_map, List.map_flatMap]
    congr 1
    funext repository
    rw [List.map_map]
    exact List.map_const

/-- After any run both listings of the referrers of a release are answered, and report all that
the run added. -/
theorem referrers_reportsAll (steps : List CatalogStep) (order : VersionOrder)
    (observed : List String) (release : Release) :
    ∃ referrers artifacts,
      ((run {} steps).sources order observed).referrers release = .ok referrers ∧
      ((run {} steps).sources order observed).referringArtifacts release = .ok artifacts ∧
      ReportsReferrers steps observed release referrers artifacts := by
  have sees := (run {} steps).sources_observed order observed
  exact ⟨_, _, QuerySources.referrers_eq sees release,
    QuerySources.referringArtifacts_eq sees release,
    reportsReferrers_map steps observed release⟩

end Catalog

end ArtifactCatalog
