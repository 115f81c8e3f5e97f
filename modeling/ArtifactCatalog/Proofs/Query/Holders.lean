/-
Which repository speaks for a release: the first one of a list that does not
fail and has metadata of the release. It also locates the release. Other
questions are put to every repository, and those that fail are passed over.
-/

import ArtifactCatalog.Query.Resolution
import Mathlib.Data.List.Basic

namespace ArtifactCatalog

def ReleaseMetadata.StatesPackaging (metadata : ReleaseMetadata) (packaging : String) : Prop :=
  packaging ≠ "" ∧ ∃ facet, metadata.mavenFacet? = some facet ∧ facet.packaging = some packaging

theorem ReleaseMetadata.packaging?_eq_some_iff {metadata : ReleaseMetadata} {packaging : String} :
    metadata.packaging? = some packaging ↔ metadata.StatesPackaging packaging := by
  unfold packaging? nonempty? StatesPackaging
  rw [Option.filter_eq_some_iff, Option.bind_eq_some_iff]
  simp [and_comm]

namespace Registry

variable {registry : Registry} {repositories : List String} {repository : String}
  {release : Release} {metadata : ReleaseMetadata}

def Holds (registry : Registry) (repository : String) (release : Release)
    (metadata : ReleaseMetadata) : Prop :=
  repository ∉ registry.failing ∧
    registry.metadata.lookup { repository, release } = some metadata

theorem held?_eq_some_iff :
    registry.held? repository release = some metadata ↔
      registry.Holds repository release metadata := by
  unfold held? release? answer Holds
  by_cases fails : repository ∈ registry.failing
  · rw [if_pos fails]
    constructor
    · intro impossible
      cases impossible
    · intro holds
      exact absurd fails holds.1
  · rw [if_neg fails]
    exact ⟨fun found => ⟨fails, found⟩, fun holds => holds.2⟩

theorem held?_eq_none_iff :
    registry.held? repository release = none ↔
      ∀ metadata, ¬ registry.Holds repository release metadata := by
  rw [Option.eq_none_iff_forall_ne_some]
  exact forall_congr' fun metadata => not_congr held?_eq_some_iff

theorem firstHeld?_eq_some_iff :
    registry.firstHeld? repositories release = some (repository, metadata) ↔
      ∃ earlier later, repositories = earlier ++ repository :: later ∧
        registry.held? repository release = some metadata ∧
          ∀ other ∈ earlier, registry.held? other release = none := by
  unfold firstHeld?
  rw [List.findSome?_eq_some_iff]
  constructor
  · rintro ⟨earlier, asked, later, split, found, before⟩
    obtain ⟨stated, held, same⟩ := Option.map_eq_some_iff.1 found
    cases same
    refine ⟨earlier, later, split, held, ?_⟩
    intro other member
    exact Option.map_eq_none_iff.1 (before other member)
  · rintro ⟨earlier, later, split, held, before⟩
    refine ⟨earlier, repository, later, split, ?_, ?_⟩
    · rw [held]
      rfl
    · intro other member
      rw [before other member]
      rfl

theorem firstHeld?_eq_none_iff :
    registry.firstHeld? repositories release = none ↔
      ∀ repository ∈ repositories, registry.held? repository release = none := by
  unfold firstHeld?
  rw [List.findSome?_eq_none_iff]
  simp only [Option.map_eq_none_iff]

theorem isSome_dependencies?_iff :
    (registry.dependencies? repositories release).isSome = true ↔
      ∃ repository ∈ repositories, ∃ metadata, registry.Holds repository release metadata := by
  unfold dependencies? firstHeld?
  rw [Option.isSome_map, List.findSome?_isSome_iff]
  constructor
  · rintro ⟨repository, member, found⟩
    rw [Option.isSome_map] at found
    obtain ⟨metadata, held⟩ := Option.isSome_iff_exists.1 found
    exact ⟨repository, member, metadata, held?_eq_some_iff.1 held⟩
  · rintro ⟨repository, member, metadata, holds⟩
    refine ⟨repository, member, ?_⟩
    rw [held?_eq_some_iff.2 holds]
    rfl

/-! ### Located releases -/

theorem locate_of_firstHeld?
    (first : registry.firstHeld? repositories release = some (repository, metadata)) :
    registry.locate repositories release =
      { repository
        group := release.group
        artifact := release.artifact
        version := release.version
        packaging := metadata.packaging?.getD defaultPackaging } := by
  unfold locate
  rw [first]

theorem locate_of_not_held (absent : registry.firstHeld? repositories release = none) :
    registry.locate repositories release =
      { repository := repositories.head?.getD ""
        group := release.group
        artifact := release.artifact
        version := release.version
        packaging := defaultPackaging } := by
  unfold locate
  rw [absent]

theorem release_locate (registry : Registry) (repositories : List String) (release : Release) :
    (registry.locate repositories release).release = release := by
  cases first : registry.firstHeld? repositories release with
  | none =>
      rw [locate_of_not_held first]
      rfl
  | some found =>
      rw [locate_of_firstHeld? first]
      rfl

/-- The first repository that holds the artifact supplies it, with the packaging
stated there; when none does, the first repository stands in for it. -/
inductive Locates (registry : Registry) (repositories : List String)
    (located : LocatedArtifact) : Prop
  | held (earlier later : List String) (metadata : ReleaseMetadata)
      (split : repositories = earlier ++ located.repository :: later)
      (before : ∀ other ∈ earlier, ∀ metadata, ¬ registry.Holds other located.release metadata)
      (holds : registry.Holds located.repository located.release metadata)
      (stated : ∀ packaging, metadata.StatesPackaging packaging → located.packaging = packaging)
      (unstated : (∀ packaging, ¬ metadata.StatesPackaging packaging) →
        located.packaging = "jar")
  | fallback
      (unheld : ∀ repository ∈ repositories, ∀ metadata,
        ¬ registry.Holds repository located.release metadata)
      (first : repositories.head? = some located.repository)
      (unstated : located.packaging = "jar")

theorem locates_locate (registry : Registry) (nonempty : repositories ≠ []) (release : Release) :
    registry.Locates repositories (registry.locate repositories release) := by
  have same := registry.release_locate repositories release
  cases first : registry.firstHeld? repositories release with
  | none =>
      have unheld := firstHeld?_eq_none_iff.1 first
      refine .fallback ?_ ?_ ?_
      · intro repository member
        rw [same]
        exact held?_eq_none_iff.1 (unheld repository member)
      · rw [locate_of_not_held first]
        cases repositories with
        | nil => exact absurd rfl nonempty
        | cons repository rest => rfl
      · rw [locate_of_not_held first]
        rfl
  | some found =>
      obtain ⟨repository, metadata⟩ := found
      obtain ⟨earlier, later, split, held, before⟩ := firstHeld?_eq_some_iff.1 first
      have located := locate_of_firstHeld? first
      refine .held earlier later metadata ?_ ?_ ?_ ?_ ?_
      · rw [located]
        exact split
      · intro other member
        rw [same]
        exact held?_eq_none_iff.1 (before other member)
      · rw [same, located]
        exact held?_eq_some_iff.1 held
      · intro packaging states
        rw [located, ReleaseMetadata.packaging?_eq_some_iff.2 states]
        rfl
      · intro silent
        have absent : metadata.packaging? = none := by
          rw [Option.eq_none_iff_forall_ne_some]
          intro packaging stated
          exact silent packaging (ReleaseMetadata.packaging?_eq_some_iff.1 stated)
        rw [located, absent]
        rfl

theorem Locates.repository_mem {located : LocatedArtifact}
    (locates : registry.Locates repositories located) : located.repository ∈ repositories := by
  cases locates with
  | held earlier later metadata split before holds stated unstated =>
      rw [split]
      exact List.mem_append_right _ List.mem_cons_self
  | fallback unheld first unstated => exact List.mem_of_head? first

/-! ### Reports of several repositories -/

/-- What the repositories that do not fail report, each with its repository. -/
def reported {α : Type} (report : String → Except BackendError (List α))
    (repositories : List String) : List (String × α) :=
  repositories.flatMap fun repository =>
    match report repository with
    | .ok items => items.map (repository, ·)
    | .error _ => []

theorem versionsAcross_eq (registry : Registry) (repositories : List String)
    (group artifact : String) :
    registry.versionsAcross repositories group artifact =
      reported (fun repository => registry.versionsOf repository group artifact)
        repositories := by
  unfold versionsAcross reported
  congr 1
  funext repository
  dsimp only
  cases registry.versionsOf repository group artifact with
  | error fault => rfl
  | ok versions => rfl

theorem referrersAcross_eq (registry : Registry) (repositories : List String)
    (release : Release) :
    registry.referrersAcross repositories release =
      reported (fun repository => registry.referrersOf repository release) repositories := by
  unfold referrersAcross reported
  congr 1
  funext repository
  dsimp only
  cases registry.referrersOf repository release with
  | error fault => rfl
  | ok referrers => rfl

theorem reported_congr {α : Type} {left right : String → Except BackendError (List α)}
    (same : ∀ repository ∈ repositories, left repository = right repository) :
    reported left repositories = reported right repositories := by
  unfold reported
  apply List.flatMap_congr
  intro repository member
  rw [same repository member]

theorem repository_mem_of_mem_reported {α : Type}
    {report : String → Except BackendError (List α)} {item : α}
    (member : (repository, item) ∈ reported report repositories) :
    repository ∈ repositories := by
  obtain ⟨asked, isAsked, listed⟩ := List.mem_flatMap.1 member
  cases answered : report asked with
  | error fault =>
      rw [answered] at listed
      cases listed
  | ok items =>
      rw [answered] at listed
      obtain ⟨known, _isKnown, same⟩ := List.mem_map.1 listed
      cases same
      exact isAsked

end Registry

end ArtifactCatalog
