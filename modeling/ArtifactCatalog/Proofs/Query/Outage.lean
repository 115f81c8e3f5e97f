/-
An outage of one repository. To a caller who observes it, a repository that fails is
like one that he does not observe: every question that is put to the registry has the
answer, or the error, that it has without this repository. Free search still locates
every release that it finds.
-/

import ArtifactCatalog.Proofs.Query.VersionListing
import ArtifactCatalog.Proofs.Query.Visibility

namespace ArtifactCatalog

def without (repositories : List String) (down : String) : List String :=
  repositories.filter fun repository => decide (repository ≠ down)

/-! ### Registries -/

namespace Registry

variable (registry : Registry) (down : String)

theorem held?_fail (repository : String) (release : Release) :
    (registry.fail down).held? repository release =
      if repository = down then none else registry.held? repository release := by
  unfold held? release? answer fail
  dsimp only
  by_cases isDown : repository = down
  · rw [if_pos isDown, if_pos (List.mem_cons.2 (.inl isDown))]
  · rw [if_neg isDown]
    by_cases fails : repository ∈ registry.failing
    · rw [if_pos fails, if_pos (List.mem_cons_of_mem down fails)]
    · rw [if_neg fails, if_neg (List.not_mem_cons_of_ne_of_not_mem isDown fails)]

theorem firstHeld?_fail (repositories : List String) (release : Release) :
    (registry.fail down).firstHeld? repositories release =
      registry.firstHeld? (without repositories down) release := by
  unfold firstHeld? without
  induction repositories with
  | nil => rfl
  | cons repository rest ih =>
      rw [List.findSome?_cons, held?_fail, ih]
      by_cases isDown : repository = down
      · rw [if_pos isDown, List.filter_cons_of_neg (by simpa using isDown)]
        rfl
      · rw [if_neg isDown, List.filter_cons_of_pos (by simpa using isDown),
          List.findSome?_cons]

theorem dependencies?_fail (repositories : List String) :
    (registry.fail down).dependencies? repositories =
      registry.dependencies? (without repositories down) := by
  funext release
  unfold dependencies?
  rw [firstHeld?_fail]

theorem expand_fail (repositories : List String) (release : Release) (limit : UInt64) :
    (DeclaredGraph.ofRegistry (registry.fail down) repositories).expand release limit =
      (DeclaredGraph.ofRegistry registry (without repositories down)).expand release limit :=
  DeclaredGraph.expand_congr (registry.dependencies?_fail down repositories) release limit

theorem reported_fail {α : Type} (known : String → List α) (repositories : List String) :
    reported (fun repository => (registry.fail down).answer repository (known repository))
        repositories =
      reported (fun repository => registry.answer repository (known repository))
        (without repositories down) := by
  rw [reported_answer, reported_answer]
  unfold fail without
  rw [List.filter_filter]
  congr 2
  funext repository
  rw [Bool.eq_iff_iff, Bool.and_eq_true, decide_eq_true_iff, decide_eq_true_iff,
    decide_eq_true_iff, List.mem_cons, not_or, and_comm]

theorem versionsAcross_fail (repositories : List String) (group artifact : String) :
    (registry.fail down).versionsAcross repositories group artifact =
      registry.versionsAcross (without repositories down) group artifact := by
  rw [versionsAcross_eq, versionsAcross_eq]
  exact registry.reported_fail down _ repositories

theorem referrersAcross_fail (repositories : List String) (release : Release) :
    (registry.fail down).referrersAcross repositories release =
      registry.referrersAcross (without repositories down) release := by
  rw [referrersAcross_eq, referrersAcross_eq]
  exact registry.reported_fail down _ repositories

/-! Located releases. -/

variable {registry down} {repositories : List String} {release : Release}

theorem locate_fail_of_holds
    (held : ∃ repository ∈ without repositories down, ∃ metadata,
      registry.Holds repository release metadata) :
    (registry.fail down).locate repositories release =
      registry.locate (without repositories down) release := by
  cases first : registry.firstHeld? (without repositories down) release with
  | none =>
      obtain ⟨repository, member, metadata, holds⟩ := held
      have unheld := firstHeld?_eq_none_iff.1 first repository member
      exact absurd holds (held?_eq_none_iff.1 unheld metadata)
  | some found =>
      have firstLeft := registry.firstHeld?_fail down repositories release
      rw [first] at firstLeft
      rw [locate_of_firstHeld? first, locate_of_firstHeld? firstLeft]

theorem locate_fail_of_not_holds
    (unheld : ∀ repository ∈ without repositories down, ∀ metadata,
      ¬ registry.Holds repository release metadata) :
    (registry.fail down).locate repositories release =
      { repository := repositories.head?.getD ""
        group := release.group
        artifact := release.artifact
        version := release.version
        packaging := "jar" } := by
  apply locate_of_not_held
  rw [firstHeld?_fail, firstHeld?_eq_none_iff]
  intro repository member
  exact held?_eq_none_iff.2 (unheld repository member)

end Registry

/-! ### Queries -/

namespace QuerySources

def observing (sources : QuerySources) (observed : List String) : QuerySources :=
  { sources with observed := .ok observed }

def failing (sources : QuerySources) (down : String) : QuerySources :=
  { sources with registry := sources.registry.fail down }

/-- Two callers who get the same answer, or the same error, to every question that is
put to the registry. -/
structure SameRegistryAnswers (left right : QuerySources) : Prop where
  listVersions : ∀ group artifact,
    left.listVersions group artifact = right.listVersions group artifact
  dependencies : ∀ release, left.dependencies release = right.dependencies release
  expansion : ∀ release limit, left.expansion release limit = right.expansion release limit
  referrers : ∀ release, left.referrers release = right.referrers release
  referringArtifacts : ∀ release,
    left.referringArtifacts release = right.referringArtifacts release

/-- The releases of a search, each in its place: one that is held without the failing
repository is located as without it, and the first observed repository stands in for
the others. -/
structure LocatesWithout (registry : Registry) (observed : List String) (down : String)
    (releases : List Release) (answer : List LocatedArtifact) : Prop where
  releases : answer.map (·.release) = releases
  held : ∀ located ∈ answer,
    (∃ repository ∈ without observed down, ∃ metadata,
      registry.Holds repository located.release metadata) →
    located = registry.locate (without observed down) located.release
  unheld : ∀ located ∈ answer,
    (∀ repository ∈ without observed down, ∀ metadata,
      ¬ registry.Holds repository located.release metadata) →
    observed.head? = some located.repository ∧ located.packaging = "jar"

/-- What a caller of the observed repositories sees while one of them is down. -/
structure Withstands (sources : QuerySources) (observed : List String) (down : String) : Prop where
  sameRegistryAnswers : SameRegistryAnswers ((sources.observing observed).failing down)
    (sources.observing (without observed down))
  nothingObserved : observed = [] → ∀ query,
    ((sources.observing observed).failing down).quickSearch query = .ok []
  located : observed ≠ [] → ∀ query found, sources.search query observed .all = .ok found →
    ∃ answer, ((sources.observing observed).failing down).quickSearch query = .ok answer ∧
      LocatesWithout sources.registry observed down (releasesOf found) answer
  unsearched : observed ≠ [] → ∀ query fault, sources.search query observed .all = .error fault →
    ((sources.observing observed).failing down).quickSearch query = .error fault.toQueryError

variable (sources : QuerySources) (observed : List String) (down : String)

theorem sameRegistryAnswers_failing :
    SameRegistryAnswers ((sources.observing observed).failing down)
      (sources.observing (without observed down)) where
  listVersions group artifact := by
    rw [listVersions_eq rfl, listVersions_eq rfl]
    unfold failing observing
    dsimp only
    rw [Registry.versionsAcross_fail]
  dependencies release := by
    rw [dependencies_eq rfl, dependencies_eq rfl]
    unfold failing observing
    dsimp only
    rw [Registry.dependencies?_fail]
  expansion release limit := by
    rw [expansion_eq rfl, expansion_eq rfl]
    unfold failing observing
    dsimp only
    rw [Registry.dependencies?_fail, Registry.expand_fail]
  referrers release := by
    rw [referrers_eq rfl, referrers_eq rfl]
    unfold failing observing
    dsimp only
    rw [Registry.referrersAcross_fail]
  referringArtifacts release := by
    rw [referringArtifacts_eq rfl, referringArtifacts_eq rfl]
    unfold failing observing
    dsimp only
    rw [Registry.referrersAcross_fail]

theorem locatesWithout_map_locate (nonempty : observed ≠ []) (releases : List Release) :
    LocatesWithout sources.registry observed down releases
      (releases.map ((sources.registry.fail down).locate observed)) where
  releases := by
    rw [List.map_map]
    apply (List.map_congr_left ?_).trans (List.map_id' _)
    intro release _member
    exact Registry.release_locate _ observed release
  held located member held := by
    obtain ⟨release, _isRelease, rfl⟩ := List.mem_map.1 member
    rw [Registry.release_locate] at held ⊢
    exact Registry.locate_fail_of_holds held
  unheld located member unheld := by
    obtain ⟨release, _isRelease, rfl⟩ := List.mem_map.1 member
    rw [Registry.release_locate] at unheld
    rw [Registry.locate_fail_of_not_holds unheld]
    cases observed with
    | nil => exact absurd rfl nonempty
    | cons first rest => exact ⟨rfl, rfl⟩

/-- A repository that fails is, to every question put to the registry, like one that is
not observed, and no search is cut short by it. -/
theorem withstands_failing : sources.Withstands observed down where
  sameRegistryAnswers := sources.sameRegistryAnswers_failing observed down
  nothingObserved empty query := by
    subst empty
    exact quickSearch_nil rfl query
  located nonempty query found answered := by
    refine ⟨_, quickSearch_eq rfl nonempty answered, ?_⟩
    exact sources.locatesWithout_map_locate observed down nonempty (releasesOf found)
  unsearched nonempty query fault failed := by
    cases observed with
    | nil => exact absurd rfl nonempty
    | cons first rest =>
        change (asQueryAnswer (sources.search query (first :: rest) .all)).bind _ = _
        rw [failed]
        rfl

end QuerySources

end ArtifactCatalog
