/-
Agreement of catalogs on the observed repositories. What is recorded of another
repository does not disturb it, so catalogs agree as soon as the same steps, in
the same order, concern the observed repositories.
-/

import ArtifactCatalog.Proofs.Query.Catalog

namespace ArtifactCatalog

/-! ### Registries -/

namespace Registry

/-- Two registries that know the same of one repository. -/
structure SameAt (repository : String) (left right : Registry) : Prop where
  failing : repository ∈ left.failing ↔ repository ∈ right.failing
  metadata : ∀ release, left.metadata.lookup { repository, release } =
    right.metadata.lookup { repository, release }
  versions : ∀ group artifact,
    (left.versions.lookup { repository, group, artifact }).getD [] =
      (right.versions.lookup { repository, group, artifact }).getD []
  referrers : ∀ release, (left.referrers.lookup { repository, release }).getD [] =
    (right.referrers.lookup { repository, release }).getD []

variable {repository other : String} {left middle right : Registry}

theorem sameAt_refl (repository : String) (registry : Registry) :
    SameAt repository registry registry :=
  ⟨Iff.rfl, fun _ => rfl, fun _ _ => rfl, fun _ => rfl⟩

theorem SameAt.symm (same : SameAt repository left right) : SameAt repository right left where
  failing := same.failing.symm
  metadata release := (same.metadata release).symm
  versions group artifact := (same.versions group artifact).symm
  referrers release := (same.referrers release).symm

theorem SameAt.trans (first : SameAt repository left middle)
    (second : SameAt repository middle right) : SameAt repository left right where
  failing := first.failing.trans second.failing
  metadata release := (first.metadata release).trans (second.metadata release)
  versions group artifact := (first.versions group artifact).trans (second.versions group artifact)
  referrers release := (first.referrers release).trans (second.referrers release)

/-! The same step on both sides. -/

theorem SameAt.addRelease (same : SameAt repository left right) (other group artifact : String)
    (metadata : ReleaseMetadata) :
    SameAt repository (left.addRelease other group artifact metadata)
      (right.addRelease other group artifact metadata) where
  failing := same.failing
  metadata release := by
    unfold Registry.addRelease
    dsimp only
    rw [lookup_putEntry, lookup_putEntry, same.metadata]
  versions name project := by
    unfold Registry.addRelease
    dsimp only
    rw [lookup_putEntry, lookup_putEntry]
    by_cases here : (⟨repository, name, project⟩ : ProjectPlace) = ⟨other, group, artifact⟩
    · cases here
      rw [if_pos rfl, if_pos rfl, same.versions]
    · rw [if_neg here, if_neg here, same.versions]
  referrers := same.referrers

theorem SameAt.addReferrer (same : SameAt repository left right) (other : String)
    (release : Release) (referrer : Referrer) :
    SameAt repository (left.addReferrer other release referrer)
      (right.addReferrer other release referrer) where
  failing := same.failing
  metadata := same.metadata
  versions := same.versions
  referrers known := by
    unfold Registry.addReferrer
    dsimp only
    rw [lookup_putEntry, lookup_putEntry]
    by_cases here : (⟨repository, known⟩ : ReleasePlace) = ⟨other, release⟩
    · cases here
      rw [if_pos rfl, if_pos rfl, same.referrers]
    · rw [if_neg here, if_neg here, same.referrers]

theorem SameAt.fail (same : SameAt repository left right) (other : String) :
    SameAt repository (left.fail other) (right.fail other) where
  failing := by
    unfold Registry.fail
    rw [List.mem_cons, List.mem_cons, same.failing]
  metadata := same.metadata
  versions := same.versions
  referrers := same.referrers

/-! A step on one side that concerns another repository. -/

theorem sameAt_addRelease_of_ne (registry : Registry) (elsewhere : repository ≠ other)
    (group artifact : String) (metadata : ReleaseMetadata) :
    SameAt repository (registry.addRelease other group artifact metadata) registry where
  failing := Iff.rfl
  metadata release := by
    unfold addRelease
    dsimp only
    rw [lookup_putEntry, if_neg fun here => elsewhere (congrArg ReleasePlace.repository here)]
  versions name project := by
    unfold addRelease
    dsimp only
    rw [lookup_putEntry, if_neg fun here => elsewhere (congrArg ProjectPlace.repository here)]
  referrers _ := rfl

theorem sameAt_addReferrer_of_ne (registry : Registry) (elsewhere : repository ≠ other)
    (release : Release) (referrer : Referrer) :
    SameAt repository (registry.addReferrer other release referrer) registry where
  failing := Iff.rfl
  metadata _ := rfl
  versions _ _ := rfl
  referrers known := by
    unfold addReferrer
    dsimp only
    rw [lookup_putEntry, if_neg fun here => elsewhere (congrArg ReleasePlace.repository here)]

theorem sameAt_fail_of_ne (registry : Registry) (elsewhere : repository ≠ other) :
    SameAt repository (registry.fail other) registry where
  failing := by
    unfold fail
    rw [List.mem_cons, or_iff_right elsewhere]
  metadata _ := rfl
  versions _ _ := rfl
  referrers _ := rfl

end Registry

/-! ### Catalogs -/

inductive CatalogStep
  | index (repository : String) (coordinate : Coordinate) (classNames : List String)
  | addRelease (repository group artifact : String) (metadata : ReleaseMetadata)
  | addReferrer (repository : String) (release : Release) (referrer : Referrer)
  | fail (repository : String)

def CatalogStep.repository : CatalogStep → String
  | .index repository _ _ => repository
  | .addRelease repository _ _ _ => repository
  | .addReferrer repository _ _ => repository
  | .fail repository => repository

namespace Catalog

def step (catalog : Catalog) : CatalogStep → Catalog
  | .index repository coordinate classNames =>
    { catalog with index := catalog.index.add repository coordinate classNames }
  | .addRelease repository group artifact metadata =>
    { catalog with registry := catalog.registry.addRelease repository group artifact metadata }
  | .addReferrer repository release referrer =>
    { catalog with registry := catalog.registry.addReferrer repository release referrer }
  | .fail repository => { catalog with registry := catalog.registry.fail repository }

def run (catalog : Catalog) (steps : List CatalogStep) : Catalog :=
  steps.foldl step catalog

/-- The catalogs agree on the observed repositories: their index entries of these
are the same sequence, and their registries know the same of each. -/
structure AgreeOn (observed : List String) (left right : Catalog) : Prop where
  entries : left.index.entries.filter (fun entry => decide (entry.repository ∈ observed)) =
    right.index.entries.filter fun entry => decide (entry.repository ∈ observed)
  registries : ∀ repository ∈ observed, Registry.SameAt repository left.registry right.registry

variable {observed : List String} {left middle right : Catalog}

theorem agreeOn_refl (observed : List String) (catalog : Catalog) :
    AgreeOn observed catalog catalog :=
  ⟨rfl, fun repository _ => Registry.sameAt_refl repository catalog.registry⟩

theorem AgreeOn.symm (agree : AgreeOn observed left right) : AgreeOn observed right left where
  entries := agree.entries.symm
  registries repository member := (agree.registries repository member).symm

theorem AgreeOn.trans (first : AgreeOn observed left middle)
    (second : AgreeOn observed middle right) : AgreeOn observed left right where
  entries := first.entries.trans second.entries
  registries repository member :=
    (first.registries repository member).trans (second.registries repository member)

theorem AgreeOn.step (agree : AgreeOn observed left right) (step : CatalogStep) :
    AgreeOn observed (left.step step) (right.step step) := by
  cases step with
  | index repository coordinate classNames =>
      refine ⟨?_, agree.registries⟩
      unfold Catalog.step SearchIndex.add
      rw [List.filter_append, List.filter_append, agree.entries]
  | addRelease repository group artifact metadata =>
      refine ⟨agree.entries, ?_⟩
      intro known member
      exact (agree.registries known member).addRelease repository group artifact metadata
  | addReferrer repository release referrer =>
      refine ⟨agree.entries, ?_⟩
      intro known member
      exact (agree.registries known member).addReferrer repository release referrer
  | fail repository =>
      refine ⟨agree.entries, ?_⟩
      intro known member
      exact (agree.registries known member).fail repository

theorem agreeOn_step_of_not_mem (catalog : Catalog) {step : CatalogStep}
    (hidden : step.repository ∉ observed) : AgreeOn observed (catalog.step step) catalog := by
  have elsewhere : ∀ repository ∈ observed, repository ≠ step.repository := by
    intro repository member same
    apply hidden
    rw [← same]
    exact member
  cases step with
  | index repository coordinate classNames =>
      refine ⟨?_, fun known _ => Registry.sameAt_refl known catalog.registry⟩
      change repository ∉ observed at hidden
      unfold Catalog.step SearchIndex.add
      rw [List.filter_append, List.filter_cons_of_neg (by simpa using hidden), List.filter_nil,
        List.append_nil]
  | addRelease repository group artifact metadata =>
      refine ⟨rfl, ?_⟩
      intro known member
      exact Registry.sameAt_addRelease_of_ne _ (elsewhere known member) group artifact metadata
  | addReferrer repository release referrer =>
      refine ⟨rfl, ?_⟩
      intro known member
      exact Registry.sameAt_addReferrer_of_ne _ (elsewhere known member) release referrer
  | fail repository =>
      refine ⟨rfl, ?_⟩
      intro known member
      exact Registry.sameAt_fail_of_ne _ (elsewhere known member)

def visibleSteps (observed : List String) (steps : List CatalogStep) : List CatalogStep :=
  steps.filter fun step => decide (step.repository ∈ observed)

theorem AgreeOn.run_visibleSteps (agree : AgreeOn observed left right)
    (steps : List CatalogStep) :
    AgreeOn observed (left.run steps) (right.run (visibleSteps observed steps)) := by
  induction steps generalizing left right with
  | nil => exact agree
  | cons step rest ih =>
      by_cases visible : step.repository ∈ observed
      · have kept : visibleSteps observed (step :: rest) = step :: visibleSteps observed rest :=
          List.filter_cons_of_pos (by simpa using visible)
        rw [kept]
        exact ih (agree.step step)
      · have dropped : visibleSteps observed (step :: rest) = visibleSteps observed rest :=
          List.filter_cons_of_neg (by simpa using visible)
        rw [dropped]
        exact ih ((left.agreeOn_step_of_not_mem visible).trans agree)

/-- Runs agree when their visible steps are the same, however hidden steps stand
between these. -/
theorem AgreeOn.run (agree : AgreeOn observed left right) {steps others : List CatalogStep}
    (same : visibleSteps observed steps = visibleSteps observed others) :
    AgreeOn observed (left.run steps) (right.run others) := by
  have first := agree.run_visibleSteps steps
  have second := (agreeOn_refl observed right).run_visibleSteps others
  rw [same] at first
  exact first.trans second.symm

end Catalog

end ArtifactCatalog
