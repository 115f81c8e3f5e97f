/-
What a registry knows after a run of steps. The metadata of a release is that of the
last step which recorded it, the versions of a project stand in the order in which they
were first recorded, and lookups fail in the repositories that were made to fail.
-/

import ArtifactCatalog.Proofs.Registry.Bookkeeping
import Mathlib.Data.List.Induction
import Mathlib.Data.List.Nodup

namespace ArtifactCatalog

/-! ### Steps that record a release -/

def CatalogStep.Records (step : CatalogStep) (repository : String) (release : Release)
    (metadata : ReleaseMetadata) : Prop :=
  step = .addRelease repository release.group release.artifact metadata ∧
    metadata.version = release.version

def IsRecorded (steps : List CatalogStep) (repository : String) (release : Release) : Prop :=
  ∃ step ∈ steps, ∃ metadata, step.Records repository release metadata

/-- At some moment of the run one release was recorded, and the other was not. -/
def RecordedBefore (steps : List CatalogStep) (repository : String) (earlier later : Release) :
    Prop :=
  ∃ moment, moment <+: steps ∧ IsRecorded moment repository earlier ∧
    ¬ IsRecorded moment repository later

/-- The metadata was recorded of a release, and none was after it. -/
def LatestRecord (steps : List CatalogStep) (repository : String) (release : Release)
    (metadata : ReleaseMetadata) : Prop :=
  ∃ before step after, steps = before ++ step :: after ∧
    step.Records repository release metadata ∧ ¬ IsRecorded after repository release

variable {steps : List CatalogStep} {step : CatalogStep} {repository : String}
  {release : Release} {metadata : ReleaseMetadata}

theorem records_addRelease_iff {place group artifact : String} {recorded : ReleaseMetadata} :
    (CatalogStep.addRelease place group artifact recorded).Records repository release metadata ↔
      recorded = metadata ∧
        ({ repository, release } : ReleasePlace) =
          Registry.metadataPlace place group artifact recorded := by
  obtain ⟨name, project, version⟩ := release
  unfold CatalogStep.Records Registry.metadataPlace
  simp only [CatalogStep.addRelease.injEq, ReleasePlace.mk.injEq, Release.mk.injEq]
  constructor
  · intro records
    obtain ⟨⟨rfl, rfl, rfl, rfl⟩, same⟩ := records
    exact ⟨rfl, rfl, rfl, rfl, same.symm⟩
  · intro records
    obtain ⟨rfl, rfl, rfl, rfl, same⟩ := records
    exact ⟨⟨rfl, rfl, rfl, rfl⟩, same.symm⟩

theorem isRecorded_append_singleton :
    IsRecorded (steps ++ [step]) repository release ↔
      IsRecorded steps repository release ∨ ∃ metadata, step.Records repository release metadata := by
  unfold IsRecorded
  simp only [List.mem_append, List.mem_singleton, or_and_right, exists_or, exists_eq_left]

theorem RecordedBefore.append {earlier later : Release}
    (before : RecordedBefore steps repository earlier later) (more : List CatalogStep) :
    RecordedBefore (steps ++ more) repository earlier later := by
  obtain ⟨moment, within, recorded, absent⟩ := before
  exact ⟨moment, within.trans (List.prefix_append steps more), recorded, absent⟩

theorem CatalogStep.Records.unique {other : ReleaseMetadata}
    (records : step.Records repository release metadata)
    (recordsToo : step.Records repository release other) : metadata = other := by
  have same := records.1.symm.trans recordsToo.1
  cases same
  rfl

/-- In a longer run a place of the run is the new step, or it was there before. -/
theorem append_singleton_eq_append_cons_iff {before after : List CatalogStep}
    {added : CatalogStep} :
    steps ++ [added] = before ++ step :: after ↔
      after = [] ∧ steps = before ∧ added = step ∨
        ∃ rest, after = rest ++ [added] ∧ steps = before ++ step :: rest := by
  constructor
  · intro whole
    cases after using List.reverseRecOn with
    | nil =>
        obtain ⟨same, sameStep⟩ := List.append_inj' whole rfl
        exact .inl ⟨rfl, same, List.singleton_inj.1 sameStep⟩
    | append_singleton rest last =>
        rw [← List.cons_append, ← List.append_assoc] at whole
        obtain ⟨same, sameStep⟩ := List.append_inj' whole rfl
        rw [List.singleton_inj.1 sameStep]
        exact .inr ⟨rest, rfl, same⟩
  · intro place
    rcases place with ⟨rfl, rfl, rfl⟩ | ⟨rest, rfl, rfl⟩
    · rfl
    · rw [List.append_assoc, List.cons_append]

theorem latestRecord_append_singleton {recorded : ReleaseMetadata}
    (records : step.Records repository release recorded) :
    LatestRecord (steps ++ [step]) repository release metadata ↔ recorded = metadata := by
  constructor
  · intro latest
    obtain ⟨before, last, after, whole, recordsLast, absent⟩ := latest
    rcases append_singleton_eq_append_cons_iff.1 whole with ⟨_, _, same⟩ | ⟨rest, behind, _⟩
    · rw [← same] at recordsLast
      exact records.unique recordsLast
    · rw [behind, isRecorded_append_singleton] at absent
      exact absurd (.inr ⟨recorded, records⟩) absent
  · intro same
    rw [← same]
    refine ⟨steps, step, [], rfl, records, ?_⟩
    intro recordedLater
    obtain ⟨later, impossible, _⟩ := recordedLater
    cases impossible

theorem latestRecord_append_singleton_of_not
    (silent : ¬ ∃ recorded, step.Records repository release recorded) :
    LatestRecord (steps ++ [step]) repository release metadata ↔
      LatestRecord steps repository release metadata := by
  constructor
  · intro latest
    obtain ⟨before, last, after, whole, recordsLast, absent⟩ := latest
    rcases append_singleton_eq_append_cons_iff.1 whole with ⟨_, _, same⟩ | ⟨rest, behind, split⟩
    · rw [← same] at recordsLast
      exact absurd ⟨metadata, recordsLast⟩ silent
    · rw [behind, isRecorded_append_singleton, not_or] at absent
      exact ⟨before, last, rest, split, recordsLast, absent.1⟩
  · intro latest
    obtain ⟨before, last, rest, split, recordsLast, absent⟩ := latest
    refine ⟨before, last, rest ++ [step], ?_, recordsLast, ?_⟩
    · exact append_singleton_eq_append_cons_iff.2 (.inr ⟨rest, rfl, split⟩)
    · rw [isRecorded_append_singleton, not_or]
      exact ⟨absent, silent⟩

theorem fail_mem_append_singleton_iff (differs : CatalogStep.fail repository ≠ step) :
    .fail repository ∈ steps ++ [step] ↔ .fail repository ∈ steps := by
  rw [List.mem_append, List.mem_singleton, or_iff_left differs]

/-! ### The record of a run -/

namespace Registry

variable {registry : Registry}

structure KeepsRecord (steps : List CatalogStep) (registry : Registry) : Prop where
  once : ∀ repository group artifact,
    (registry.knownVersions repository group artifact).Nodup
  ordered : ∀ repository group artifact,
    (registry.knownVersions repository group artifact).Pairwise fun earlier later =>
      RecordedBefore steps repository { group, artifact, version := earlier }
        { group, artifact, version := later }
  listed : ∀ repository (release : Release),
    release.version ∈ registry.knownVersions repository release.group release.artifact ↔
      IsRecorded steps repository release
  latest : ∀ repository release metadata,
    registry.metadata.lookup { repository, release } = some metadata ↔
      LatestRecord steps repository release metadata
  failing : ∀ repository, repository ∈ registry.failing ↔ .fail repository ∈ steps

theorem keepsRecord_empty : KeepsRecord [] {} where
  once _ _ _ := List.nodup_nil
  ordered _ _ _ := List.Pairwise.nil
  listed repository release := by
    unfold IsRecorded
    simp [knownVersions]
  latest repository release metadata := by
    unfold LatestRecord
    simp
  failing repository := by simp

theorem KeepsRecord.silent (keeps : KeepsRecord steps registry) {next : Registry}
    (differs : ∀ repository group artifact metadata,
      step ≠ .addRelease repository group artifact metadata)
    (versions : next.versions = registry.versions) (metadata : next.metadata = registry.metadata)
    (failing : ∀ repository, repository ∈ next.failing ↔ .fail repository ∈ steps ++ [step]) :
    KeepsRecord (steps ++ [step]) next := by
  have sameVersions : next.knownVersions = registry.knownVersions := by
    unfold knownVersions
    rw [versions]
  have silent (repository : String) (release : Release) :
      ¬ ∃ metadata, step.Records repository release metadata := by
    intro recorded
    obtain ⟨known, same, _⟩ := recorded
    exact differs _ _ _ _ same
  refine ⟨?_, ?_, ?_, ?_, failing⟩
  · rw [sameVersions]
    exact keeps.once
  · rw [sameVersions]
    intro repository group artifact
    exact (keeps.ordered repository group artifact).imp fun before => before.append [step]
  · intro repository release
    rw [sameVersions, keeps.listed, isRecorded_append_singleton,
      or_iff_left (silent repository release)]
  · intro repository release recorded
    rw [metadata, keeps.latest, latestRecord_append_singleton_of_not (silent repository release)]

theorem KeepsRecord.addRelease (keeps : KeepsRecord steps registry)
    (repository group artifact : String) (metadata : ReleaseMetadata) :
    KeepsRecord (steps ++ [.addRelease repository group artifact metadata])
      (registry.addRelease repository group artifact metadata) where
  once other name project := by
    by_cases here : (⟨other, name, project⟩ : ProjectPlace) = ⟨repository, group, artifact⟩
    · cases here
      rw [knownVersions_addRelease]
      split
      · exact keeps.once repository group artifact
      · rename_i new
        rw [← List.concat_eq_append]
        exact (keeps.once repository group artifact).concat new
    · rw [knownVersions_addRelease_of_ne registry here]
      exact keeps.once other name project
  ordered other name project := by
    have before := (keeps.ordered other name project).imp fun before =>
      before.append [CatalogStep.addRelease repository group artifact metadata]
    by_cases here : (⟨other, name, project⟩ : ProjectPlace) = ⟨repository, group, artifact⟩
    · cases here
      rw [knownVersions_addRelease]
      split
      · exact before
      · rename_i new
        refine List.pairwise_append.2 ⟨before, List.pairwise_singleton _ _, ?_⟩
        intro earlier isKnown later isNew
        rw [List.mem_singleton.1 isNew]
        -- Before this step all the known versions were recorded, and the new one was not.
        refine ⟨steps, List.prefix_append _ _, ?_, ?_⟩
        · exact (keeps.listed repository { group, artifact, version := earlier }).1 isKnown
        · intro recorded
          exact new ((keeps.listed repository
            { group, artifact, version := metadata.version }).2 recorded)
    · rw [knownVersions_addRelease_of_ne registry here]
      exact before
  listed other release := by
    rw [mem_knownVersions_addRelease, keeps.listed, isRecorded_append_singleton, or_comm]
    simp only [records_addRelease_iff, exists_eq_left']
  latest other release recorded := by
    rw [lookup_metadata_addRelease]
    by_cases here : { repository := other, release } = metadataPlace repository group artifact metadata
    · rw [if_pos here, Option.some.injEq,
        latestRecord_append_singleton (records_addRelease_iff.2 ⟨rfl, here⟩)]
    · have silent : ¬ ∃ known, (CatalogStep.addRelease repository group artifact metadata).Records
          other release known := by
        intro recordedHere
        obtain ⟨known, records⟩ := recordedHere
        exact here (records_addRelease_iff.1 records).2
      rw [if_neg here, keeps.latest, latestRecord_append_singleton_of_not silent]
  failing other := by
    rw [fail_mem_append_singleton_iff CatalogStep.noConfusion]
    exact keeps.failing other

/-! ### Lookups -/

/-- A lookup in a repository gives a value unless the repository was made to fail before. -/
structure AnswersUnlessFailed {α : Type} (steps : List CatalogStep) (repository : String)
    (value : α) (answer : Except BackendError α) : Prop where
  error_iff : ∀ fault, answer = .error fault ↔
    .fail repository ∈ steps ∧ fault = .repositoryUnavailable repository failureReason
  ok_iff : ∀ given, answer = .ok given ↔ .fail repository ∉ steps ∧ given = value

theorem KeepsRecord.answersUnlessFailed {α : Type} (keeps : KeepsRecord steps registry)
    (repository : String) (value : α) :
    AnswersUnlessFailed steps repository value (registry.answer repository value) := by
  have failing := keeps.failing repository
  unfold answer
  by_cases fails : repository ∈ registry.failing
  · rw [if_pos fails]
    refine ⟨fun fault => ?_, fun given => ?_⟩
    · rw [and_iff_right (failing.1 fails), Except.error.injEq, eq_comm]
    · exact iff_of_false (fun impossible => by cases impossible)
        fun intact => intact.1 (failing.1 fails)
  · rw [if_neg fails]
    refine ⟨fun fault => ?_, fun given => ?_⟩
    · exact iff_of_false (fun impossible => by cases impossible)
        fun failed => fails (failing.2 failed.1)
    · rw [and_iff_right fun failed => fails (failing.2 failed), Except.ok.injEq, eq_comm]

structure AnswersLookups (steps : List CatalogStep) (registry : Registry) : Prop where
  release : ∀ repository (release : Release),
    AnswersUnlessFailed steps repository (registry.metadata.lookup { repository, release })
      (registry.release? repository release)
  versions : ∀ repository group artifact,
    AnswersUnlessFailed steps repository (registry.knownVersions repository group artifact)
      (registry.versionsOf repository group artifact)
  referrers : ∀ repository (release : Release),
    AnswersUnlessFailed steps repository
      ((registry.referrers.lookup { repository, release }).getD [])
      (registry.referrersOf repository release)

theorem KeepsRecord.answersLookups (keeps : KeepsRecord steps registry) :
    AnswersLookups steps registry where
  release repository _release := keeps.answersUnlessFailed repository _
  versions repository _group _artifact := keeps.answersUnlessFailed repository _
  referrers repository _release := keeps.answersUnlessFailed repository _

end Registry

namespace Catalog

open Registry

theorem keepsRecord_step {catalog : Catalog} (keeps : KeepsRecord steps catalog.registry)
    (step : CatalogStep) : KeepsRecord (steps ++ [step]) (catalog.step step).registry := by
  cases step with
  | index _ _ _ =>
      refine keeps.silent (fun _ _ _ _ => CatalogStep.noConfusion) rfl rfl fun other => ?_
      rw [fail_mem_append_singleton_iff CatalogStep.noConfusion]
      exact keeps.failing other
  | addRelease repository group artifact metadata =>
      exact keeps.addRelease repository group artifact metadata
  | addReferrer _ _ _ =>
      refine keeps.silent (fun _ _ _ _ => CatalogStep.noConfusion) rfl rfl fun other => ?_
      rw [fail_mem_append_singleton_iff CatalogStep.noConfusion]
      exact keeps.failing other
  | fail repository =>
      refine keeps.silent (fun _ _ _ _ => CatalogStep.noConfusion) rfl rfl fun other => ?_
      change other ∈ repository :: catalog.registry.failing ↔ _
      rw [List.mem_cons, keeps.failing, List.mem_append, List.mem_singleton,
        CatalogStep.fail.injEq, or_comm]

theorem keepsRecord_run (steps : List CatalogStep) :
    KeepsRecord steps (run {} steps).registry := by
  induction steps using List.reverseRecOn with
  | nil => exact keepsRecord_empty
  | append_singleton steps step ih =>
      unfold run at ih ⊢
      rw [List.foldl_append]
      exact keepsRecord_step ih step

theorem lookup_metadata_step (catalog : Catalog)
    (silent : ¬ ∃ metadata, step.Records repository release metadata) :
    (catalog.step step).registry.metadata.lookup { repository, release } =
      catalog.registry.metadata.lookup { repository, release } := by
  cases step with
  | index _ _ _ => rfl
  | addRelease other group artifact metadata =>
      refine (lookup_metadata_addRelease _ _ _ _ _ _).trans (if_neg fun here => silent ?_)
      exact ⟨metadata, records_addRelease_iff.2 ⟨rfl, here⟩⟩
  | addReferrer _ _ _ => rfl
  | fail _ => rfl

/-- After any run the registry has the record of its steps, its two books agree, lookups fail
exactly where a step said so, and a further step changes the metadata of no other release. -/
theorem run_keepsRecord (steps : List CatalogStep) :
    KeepsRecord steps (run {} steps).registry ∧
      (run {} steps).registry.BooksAgree ∧
      AnswersLookups steps (run {} steps).registry ∧
      ∀ (step : CatalogStep) (repository : String) (release : Release),
        (¬ ∃ metadata, step.Records repository release metadata) →
          (run {} (steps ++ [step])).registry.metadata.lookup { repository, release } =
            (run {} steps).registry.metadata.lookup { repository, release } := by
  have keeps := keepsRecord_run steps
  refine ⟨keeps, booksAgree_run booksAgree_empty steps, keeps.answersLookups, ?_⟩
  intro step repository release silent
  have oneMore : run {} (steps ++ [step]) = (run {} steps).step step := List.foldl_append
  rw [oneMore]
  exact lookup_metadata_step _ silent

def rerecordedSteps : List CatalogStep :=
  [.addRelease "main" "org" "lib" { version := "1" },
    .addRelease "main" "org" "lib" { version := "2" },
    .addRelease "main" "org" "lib"
      { version := "1", facets := [.maven { packaging := some "war" }] },
    .fail "spare"]

def libraryOne : Release where
  group := "org"
  artifact := "lib"
  version := "1"

def spareStep : CatalogStep := .addRelease "spare" "org" "lib" { version := "1" }

theorem run_keepsRecord_rerecordedSteps :
    (¬ ∃ metadata, spareStep.Records "main" libraryOne metadata) ∧
      (run {} (rerecordedSteps ++ [spareStep])).registry.metadata.lookup ⟨"main", libraryOne⟩ =
        some { version := "1", facets := [.maven { packaging := some "war" }] } := by
  have silent : ¬ ∃ metadata, spareStep.Records "main" libraryOne metadata := by
    intro recorded
    obtain ⟨metadata, records⟩ := recorded
    have samePlace := (records_addRelease_iff.1 records).2
    exact absurd (congrArg ReleasePlace.repository samePlace) (by decide)
  obtain ⟨_keeps, _agree, _answers, unaffected⟩ := run_keepsRecord rerecordedSteps
  exact ⟨silent, (unaffected spareStep "main" libraryOne silent).trans (by decide)⟩

end Catalog

end ArtifactCatalog
