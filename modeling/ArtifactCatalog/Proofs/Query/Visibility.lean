/-
What a caller cannot observe does not influence the answers. Two catalogs that
agree on the observed repositories answer every confined query alike, whatever
other repositories hold and wherever their entries stand in the index, and an
answer names observed repositories only.
-/

import ArtifactCatalog.Proofs.Expansion.Frontier
import ArtifactCatalog.Proofs.Query.Agreement
import ArtifactCatalog.Proofs.Query.Holders

namespace ArtifactCatalog

/-! ### Registries -/

namespace Registry

variable {repository : String} {repositories : List String} {left right : Registry}

theorem SameAt.answer_eq {α : Type} (same : SameAt repository left right) (value : α) :
    left.answer repository value = right.answer repository value := by
  unfold answer
  by_cases fails : repository ∈ right.failing
  · rw [if_pos (same.failing.2 fails), if_pos fails]
  · rw [if_neg (fun other => fails (same.failing.1 other)), if_neg fails]

theorem SameAt.held?_eq (same : SameAt repository left right) (release : Release) :
    left.held? repository release = right.held? repository release := by
  unfold held? release?
  rw [same.answer_eq, same.metadata]

theorem SameAt.versionsOf_eq (same : SameAt repository left right) (group artifact : String) :
    left.versionsOf repository group artifact = right.versionsOf repository group artifact := by
  unfold versionsOf
  rw [same.answer_eq, same.versions]

theorem SameAt.referrersOf_eq (same : SameAt repository left right) (release : Release) :
    left.referrersOf repository release = right.referrersOf repository release := by
  unfold referrersOf
  rw [same.answer_eq, same.referrers]

theorem firstHeld?_congr {release : Release}
    (same : ∀ repository ∈ repositories,
      left.held? repository release = right.held? repository release) :
    left.firstHeld? repositories release = right.firstHeld? repositories release := by
  unfold firstHeld?
  induction repositories with
  | nil => rfl
  | cons repository rest ih =>
      rw [List.findSome?_cons, List.findSome?_cons, same repository List.mem_cons_self,
        ih fun other member => same other (List.mem_cons_of_mem _ member)]

end Registry

/-! ### Declared graphs -/

namespace DeclaredGraph

/-- The names that a graph lists bound its expansions, but do not shape them. -/
theorem expandQueue_congr {left right : DeclaredGraph}
    (same : left.dependencies? = right.dependencies?) (limit : Nat)
    (queue : List (Release × Nat)) (met : List Release) :
    left.expandQueue limit queue met = right.expandQueue limit queue met := by
  have sameFresh : left.fresh = right.fresh := by
    unfold fresh successors dependencies
    rw [same]
  have sameNode : left.node = right.node := by
    unfold node dependencies
    rw [same]
  induction queue, met using expandQueue.induct left limit with
  | case1 met => rw [expandQueue_nil, expandQueue_nil]
  | case2 met release depth rest fresh above _nodes _truncated _run ih =>
      rw [expandQueue_of_lt left release rest met above,
        expandQueue_of_lt right release rest met above, ← sameFresh, ← sameNode, ← ih]
  | case3 met release depth rest atLimit _nodes _truncated _run ih =>
      have reached : limit ≤ depth := Nat.not_lt.1 atLimit
      rw [expandQueue_of_le left release rest met reached,
        expandQueue_of_le right release rest met reached, ← sameFresh, ← sameNode, ← ih]

theorem expand_congr {left right : DeclaredGraph}
    (same : left.dependencies? = right.dependencies?) (root : Release) (limit : UInt64) :
    left.expand root limit = right.expand root limit := by
  unfold expand
  rw [expandQueue_congr same]

end DeclaredGraph

/-! ### Catalogs -/

namespace Catalog

variable {observed : List String} {left right : Catalog}

theorem AgreeOn.search_eq (agree : AgreeOn observed left right) (query : String)
    (window : PageWindow) :
    left.index.search query observed window = right.index.search query observed window := by
  have sameMatching (needle : List Char) :
      left.index.matching needle observed = right.index.matching needle observed := by
    unfold SearchIndex.matching
    have split (entries : List IndexEntry) :
        (entries.filter fun entry => entry.repository ∈ observed && entry.hasText needle) =
          (entries.filter fun entry => decide (entry.repository ∈ observed)).filter
            fun entry => entry.hasText needle := by
      rw [List.filter_filter]
      simp only [Bool.and_comm]
    rw [split, split, agree.entries]
  unfold SearchIndex.search SearchIndex.allMatches
  rw [sameMatching]

theorem AgreeOn.firstHeld?_eq (agree : AgreeOn observed left right) (release : Release) :
    left.registry.firstHeld? observed release = right.registry.firstHeld? observed release :=
  Registry.firstHeld?_congr fun repository member =>
    (agree.registries repository member).held?_eq release

theorem AgreeOn.dependencies?_eq (agree : AgreeOn observed left right) :
    left.registry.dependencies? observed = right.registry.dependencies? observed := by
  funext release
  unfold Registry.dependencies?
  rw [agree.firstHeld?_eq]

theorem AgreeOn.expand_eq (agree : AgreeOn observed left right) (release : Release)
    (limit : UInt64) :
    (DeclaredGraph.ofRegistry left.registry observed).expand release limit =
      (DeclaredGraph.ofRegistry right.registry observed).expand release limit :=
  DeclaredGraph.expand_congr agree.dependencies?_eq release limit

theorem AgreeOn.versionsAcross_eq (agree : AgreeOn observed left right)
    (group artifact : String) :
    left.registry.versionsAcross observed group artifact =
      right.registry.versionsAcross observed group artifact := by
  rw [Registry.versionsAcross_eq, Registry.versionsAcross_eq]
  apply Registry.reported_congr
  intro repository member
  exact (agree.registries repository member).versionsOf_eq group artifact

theorem AgreeOn.referrersAcross_eq (agree : AgreeOn observed left right) (release : Release) :
    left.registry.referrersAcross observed release =
      right.registry.referrersAcross observed release := by
  rw [Registry.referrersAcross_eq, Registry.referrersAcross_eq]
  apply Registry.reported_congr
  intro repository member
  exact (agree.registries repository member).referrersOf_eq release

theorem AgreeOn.locate_eq (agree : AgreeOn observed left right) :
    left.registry.locate observed = right.registry.locate observed := by
  funext release
  unfold Registry.locate
  rw [agree.firstHeld?_eq]

/-- Two callers who get the same answer, or the same error, to every query that
is confined to observed repositories. -/
structure SameAnswers (left right : QuerySources) : Prop where
  quickSearch : ∀ query, left.quickSearch query = right.quickSearch query
  listVersions : ∀ group artifact,
    left.listVersions group artifact = right.listVersions group artifact
  dependencies : ∀ release, left.dependencies release = right.dependencies release
  expansion : ∀ release limit, left.expansion release limit = right.expansion release limit
  referrers : ∀ release, left.referrers release = right.referrers release
  referringArtifacts : ∀ release,
    left.referringArtifacts release = right.referringArtifacts release

structure AnswersWithin (observed : List String) (sources : QuerySources) : Prop where
  quickSearch : ∀ query found, sources.quickSearch query = .ok found →
    ∀ artifact ∈ found, artifact.repository ∈ observed
  listVersions : ∀ group artifact found, sources.listVersions group artifact = .ok found →
    ∀ listed ∈ found, listed.repository ∈ observed
  referringArtifacts : ∀ release found, sources.referringArtifacts release = .ok found →
    ∀ artifact ∈ found, artifact.repository ∈ observed

theorem AgreeOn.sameAnswers (agree : AgreeOn observed left right) (order : VersionOrder) :
    SameAnswers (left.sources order observed) (right.sources order observed) where
  quickSearch query := by
    by_cases empty : observed = []
    · subst empty
      rw [QuerySources.quickSearch_nil (left.sources_observed order []),
        QuerySources.quickSearch_nil (right.sources_observed order [])]
    · rw [left.quickSearch_sources order empty, right.quickSearch_sources order empty,
        agree.search_eq, agree.locate_eq]
  listVersions group artifact := by
    rw [QuerySources.listVersions_eq (left.sources_observed order observed),
      QuerySources.listVersions_eq (right.sources_observed order observed),
      sources_registry, sources_registry, sources_order, sources_order, agree.versionsAcross_eq]
  dependencies release := by
    rw [QuerySources.dependencies_eq (left.sources_observed order observed),
      QuerySources.dependencies_eq (right.sources_observed order observed),
      sources_registry, sources_registry, agree.dependencies?_eq]
  expansion release limit := by
    rw [QuerySources.expansion_eq (left.sources_observed order observed),
      QuerySources.expansion_eq (right.sources_observed order observed),
      sources_registry, sources_registry, agree.expand_eq, agree.dependencies?_eq]
  referrers release := by
    rw [QuerySources.referrers_eq (left.sources_observed order observed),
      QuerySources.referrers_eq (right.sources_observed order observed),
      sources_registry, sources_registry, agree.referrersAcross_eq]
  referringArtifacts release := by
    rw [QuerySources.referringArtifacts_eq (left.sources_observed order observed),
      QuerySources.referringArtifacts_eq (right.sources_observed order observed),
      sources_registry, sources_registry, agree.referrersAcross_eq]

theorem answersWithin (catalog : Catalog) (order : VersionOrder) (observed : List String) :
    AnswersWithin observed (catalog.sources order observed) where
  quickSearch query found answered artifact member := by
    by_cases empty : observed = []
    · subst empty
      rw [QuerySources.quickSearch_nil (catalog.sources_observed order [])] at answered
      cases answered
      cases member
    · rw [catalog.quickSearch_sources order empty] at answered
      cases answered
      obtain ⟨release, _found, rfl⟩ := List.mem_map.1 member
      exact (Registry.locates_locate catalog.registry empty release).repository_mem
  listVersions group artifact found answered listed member := by
    rw [QuerySources.listVersions_eq (catalog.sources_observed order observed)] at answered
    cases answered
    unfold VersionOrder.sortOn at member
    rw [List.mem_mergeSort] at member
    obtain ⟨⟨repository, version⟩, isListed, rfl⟩ := List.mem_map.1 member
    rw [sources_registry, Registry.versionsAcross_eq] at isListed
    exact Registry.repository_mem_of_mem_reported isListed
  referringArtifacts release found answered artifact member := by
    rw [QuerySources.referringArtifacts_eq (catalog.sources_observed order observed)] at answered
    cases answered
    obtain ⟨⟨repository, referrer⟩, isReported, rfl⟩ := List.mem_map.1 member
    rw [sources_registry, Registry.referrersAcross_eq] at isReported
    exact Registry.repository_mem_of_mem_reported isReported

/-- Two catalogs that agree on the observed repositories give the same answers,
or the same errors, to every confined query, and locate artifacts in observed
repositories only. -/
theorem AgreeOn.noninterference (agree : AgreeOn observed left right) (order : VersionOrder) :
    SameAnswers (left.sources order observed) (right.sources order observed) ∧
      AnswersWithin observed (left.sources order observed) ∧
      AnswersWithin observed (right.sources order observed) :=
  ⟨agree.sameAnswers order, left.answersWithin order observed,
    right.answersWithin order observed⟩

def openSteps : List CatalogStep :=
  [.index "open" { group := "org", artifact := "app", version := "1" } ["Main"],
    .addRelease "open" "org" "app" { version := "1" }]

def interleavedSteps : List CatalogStep :=
  [.index "secret" { group := "org", artifact := "app", version := "2" } ["Main"],
    .index "open" { group := "org", artifact := "app", version := "1" } ["Main"],
    .addRelease "secret" "org" "app" { version := "1" },
    .addReferrer "secret" { group := "org", artifact := "app", version := "1" }
      { namespaceName := "org", project := "user", version := "3" },
    .addRelease "open" "org" "app" { version := "1" },
    .fail "secret"]

theorem noninterference_interleavedSteps :
    run {} openSteps ≠ run {} interleavedSteps ∧
      SameAnswers ((run {} openSteps).sources .maven ["open"])
        ((run {} interleavedSteps).sources .maven ["open"]) ∧
      AnswersWithin ["open"] ((run {} openSteps).sources .maven ["open"]) ∧
      AnswersWithin ["open"] ((run {} interleavedSteps).sources .maven ["open"]) := by
  constructor
  · intro same
    have fewer := congrArg (fun catalog => catalog.index.entries.length) same
    change 1 = 2 at fewer
    omega
  · have agree : AgreeOn ["open"] (run {} openSteps) (run {} interleavedSteps) :=
      (agreeOn_refl ["open"] {}).run rfl
    exact agree.noninterference .maven

end Catalog

end ArtifactCatalog
