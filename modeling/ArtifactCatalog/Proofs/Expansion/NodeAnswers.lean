/-
Nodes of an expansion against single lookups. An expansion fails where the lookup of its root
fails. Otherwise the answer to this lookup starts the loop, and each node says of its release
what the caller's own lookup says: whether it is held, and the dependencies that the first
repository holding it declares.
-/

import ArtifactCatalog.Proofs.Expansion.QueueLoop
import ArtifactCatalog.Query.Lookups

namespace ArtifactCatalog

/-! ### Normalized dependencies -/

structure Dependency.HasNoEmptyPart (dependency : Dependency) : Prop where
  classifier : dependency.classifier ≠ some ""
  packaging : dependency.packaging ≠ some ""
  scope : dependency.scope ≠ some ""

theorem nonempty?_ne_some_empty (text : Option String) : nonempty? text ≠ some "" := by
  intro isEmpty
  have kept := (Option.filter_eq_some_iff.1 isEmpty).2
  cases kept

theorem Dependency.hasNoEmptyPart_normalized (dependency : Dependency) :
    dependency.normalized.HasNoEmptyPart :=
  ⟨nonempty?_ne_some_empty _, nonempty?_ne_some_empty _, nonempty?_ne_some_empty _⟩

/-! ### The repository that answers -/

namespace Registry

variable {registry : Registry} {repositories : List String} {release : Release}
  {repository : String} {metadata : ReleaseMetadata}

/-- The first repository of a list that holds a release, and its metadata of it. -/
structure FirstHolder (registry : Registry) (repositories : List String) (release : Release)
    (repository : String) (metadata : ReleaseMetadata) : Prop where
  holds : registry.Holds repository release metadata
  isFirst : ∃ earlier later, repositories = earlier ++ repository :: later ∧
    ∀ other ∈ earlier, ∀ metadata, ¬ registry.Holds other release metadata

theorem firstHolder_of_firstHeld?
    (first : registry.firstHeld? repositories release = some (repository, metadata)) :
    registry.FirstHolder repositories release repository metadata := by
  obtain ⟨earlier, later, split, held, before⟩ := firstHeld?_eq_some_iff.1 first
  refine ⟨held?_eq_some_iff.1 held, earlier, later, split, ?_⟩
  intro other member
  exact held?_eq_none_iff.1 (before other member)

theorem exists_firstHolder_of_dependencies? {dependencies : List Dependency}
    (declared : registry.dependencies? repositories release = some dependencies) :
    ∃ repository metadata, registry.FirstHolder repositories release repository metadata ∧
      dependencies = metadata.normalizedDependencies := by
  obtain ⟨⟨repository, metadata⟩, first, rfl⟩ := Option.map_eq_some_iff.1 declared
  exact ⟨repository, metadata, firstHolder_of_firstHeld? first, rfl⟩

end Registry

/-! ### Nodes as answers -/

namespace QuerySources

variable {sources : QuerySources} {observed : List String}

/-- A node that says of its release what the caller's own lookup says. -/
structure AnswersLike (sources : QuerySources) (observed : List String) (node : ExpansionNode) :
    Prop where
  resolved : node.resolved = true ↔
    ∃ dependencies, sources.dependencies node.release = .ok dependencies
  same : node.resolved = true → sources.dependencies node.release = .ok node.dependencies
  supplied : node.resolved = true → ∃ repository metadata,
    sources.registry.FirstHolder observed node.release repository metadata ∧
      node.dependencies = metadata.normalizedDependencies
  unresolved : node.resolved = false →
    sources.dependencies node.release = .error (.artifactNotFound node.release) ∧
      node.dependencies = []
  withoutEmptyParts : ∀ dependency ∈ node.dependencies, dependency.HasNoEmptyPart

theorem answersLike_of_declared (sees : sources.observed = .ok observed) {node : ExpansionNode}
    (declared : sources.registry.dependencies? observed node.release = some node.dependencies)
    (isResolved : node.resolved = true) : sources.AnswersLike observed node := by
  have answered := (dependencies_eq_ok_iff sees).2 declared
  obtain ⟨repository, metadata, first, stated⟩ :=
    Registry.exists_firstHolder_of_dependencies? declared
  refine ⟨iff_of_true isResolved ⟨_, answered⟩, fun _ => answered,
    fun _ => ⟨repository, metadata, first, stated⟩, ?_, ?_⟩
  · intro unresolved
    rw [isResolved] at unresolved
    cases unresolved
  · intro dependency member
    rw [stated] at member
    obtain ⟨recorded, _isRecorded, rfl⟩ := List.mem_map.1 member
    exact recorded.hasNoEmptyPart_normalized

theorem answersLike_of_absent (sees : sources.observed = .ok observed) {node : ExpansionNode}
    (absent : sources.registry.dependencies? observed node.release = none)
    (isUnresolved : node.resolved = false) (isLeaf : node.dependencies = []) :
    sources.AnswersLike observed node := by
  have answered := dependencies_eq sees node.release
  rw [absent] at answered
  have notResolved : node.resolved ≠ true := by
    rw [isUnresolved]
    exact Bool.false_ne_true
  refine ⟨iff_of_false notResolved ?_, fun resolved => absurd resolved notResolved,
    fun resolved => absurd resolved notResolved, fun _ => ⟨answered, isLeaf⟩, ?_⟩
  · rintro ⟨dependencies, found⟩
    rw [answered] at found
    cases found
  · intro dependency member
    rw [isLeaf] at member
    cases member

theorem answersLike_node (sees : sources.observed = .ok observed) (release : Release)
    (depth : Nat) :
    sources.AnswersLike observed
      ((DeclaredGraph.ofRegistry sources.registry observed).node release depth) := by
  cases declared : sources.registry.dependencies? observed release with
  | none =>
      exact answersLike_of_absent sees declared (congrArg Option.isSome declared)
        (congrArg (Option.getD · []) declared)
  | some dependencies =>
      have stated : ((DeclaredGraph.ofRegistry sources.registry observed).node release
          depth).dependencies = dependencies := congrArg (Option.getD · []) declared
      refine answersLike_of_declared sees ?_ (congrArg Option.isSome declared)
      rw [stated]
      exact declared

theorem expansion_eq_error_iff (sees : sources.observed = .ok observed) (root : Release)
    (limit : UInt64) :
    sources.expansion root limit = .error (.artifactNotFound root) ↔
      sources.dependencies root = .error (.artifactNotFound root) := by
  rw [expansion_eq sees, dependencies_eq sees]
  cases sources.registry.dependencies? observed root with
  | none => simp
  | some dependencies => simp

/-- An expansion that is made of lookups: the loop that starts with the answer for the root
ends with it, its lookups are those that the loop has made, which are those of its nodes, and
each node says what they answer. -/
structure MadeOfLookups (sources : QuerySources) (observed : List String) (root : Release)
    (limit : UInt64) (tree : Expansion) : Prop where
  looped : ∃ dependencies final, sources.dependencies root = .ok dependencies ∧
    (DeclaredGraph.ofRegistry sources.registry observed).Loops limit
      (DeclaredGraph.loopStart root dependencies) final ∧
    final.waiting = [] ∧ final.tree = tree ∧
    sources.expansionLookups root limit = final.asked.flatMap sources.dependenciesLookups
  lookups : sources.expansionLookups root limit =
    (tree.nodes.map (·.release)).flatMap sources.dependenciesLookups
  answers : ∀ node ∈ tree.nodes, sources.AnswersLike observed node

theorem expansionLookups_of_declared (sees : sources.observed = .ok observed) {root : Release}
    {dependencies : List Dependency}
    (declared : sources.registry.dependencies? observed root = some dependencies)
    (limit : UInt64) :
    sources.expansionLookups root limit =
      (((DeclaredGraph.ofRegistry sources.registry observed).expand root limit).nodes.map
        (·.release)).flatMap sources.dependenciesLookups := by
  unfold expansionLookups
  rw [expansion_eq sees, declared]
  rfl

/-- The loop ends with the expansion, and its lookups are those that the expansion makes. -/
theorem exists_loops_expansionLookups (sees : sources.observed = .ok observed) {root : Release}
    {dependencies : List Dependency}
    (declared : sources.registry.dependencies? observed root = some dependencies)
    (limit : UInt64) :
    ∃ final, (DeclaredGraph.ofRegistry sources.registry observed).Loops limit
        (DeclaredGraph.loopStart root dependencies) final ∧
      final.waiting = [] ∧
      final.tree = (DeclaredGraph.ofRegistry sources.registry observed).expand root limit ∧
      final.asked = final.tree.nodes.map (·.release) ∧
      sources.expansionLookups root limit =
        final.asked.flatMap sources.dependenciesLookups := by
  obtain ⟨final, loops, isEmpty, asked, sameTree⟩ :=
    (DeclaredGraph.ofRegistry sources.registry observed).exists_loops_expand declared limit
  refine ⟨final, loops, isEmpty, sameTree, asked, ?_⟩
  rw [asked, sameTree]
  exact expansionLookups_of_declared sees declared limit

theorem madeOfLookups_expand (sees : sources.observed = .ok observed) {root : Release}
    {dependencies : List Dependency}
    (declared : sources.registry.dependencies? observed root = some dependencies)
    (limit : UInt64) :
    sources.MadeOfLookups observed root limit
      ((DeclaredGraph.ofRegistry sources.registry observed).expand root limit) where
  looped := by
    obtain ⟨final, loops, isEmpty, sameTree, _asked, lookups⟩ :=
      exists_loops_expansionLookups sees declared limit
    exact ⟨dependencies, final, (dependencies_eq_ok_iff sees).2 declared, loops, isEmpty, sameTree,
      lookups⟩
  lookups := expansionLookups_of_declared sees declared limit
  answers := by
    intro node member
    rw [(DeclaredGraph.measured_of_mem_expand member).1]
    exact answersLike_node sees node.release node.depth.toNat

/-- An expansion fails exactly where the lookup of its root does, and is otherwise made of
lookups. -/
theorem expansion_madeOfLookups (sees : sources.observed = .ok observed) (root : Release)
    (limit : UInt64) :
    (sources.expansion root limit = .error (.artifactNotFound root) ↔
      sources.dependencies root = .error (.artifactNotFound root)) ∧
    (sources.dependencies root ≠ .error (.artifactNotFound root) →
      ∃ tree, sources.expansion root limit = .ok tree ∧
        sources.MadeOfLookups observed root limit tree) := by
  refine ⟨expansion_eq_error_iff sees root limit, ?_⟩
  intro present
  rw [dependencies_eq sees] at present
  rw [expansion_eq sees]
  cases declared : sources.registry.dependencies? observed root with
  | none =>
      rw [declared] at present
      exact absurd rfl present
  | some dependencies => exact ⟨_, rfl, madeOfLookups_expand sees declared limit⟩

def outageRegistry : Registry :=
  let lost : Dependency :=
    { group := "org", artifact := "lost", version := "1", scope := some "" }
  let spare := ({} : Registry).addRelease "spare" "org" "app" (declaring ["other"])
  (spare.addRelease "main" "org" "app" { version := "1", dependencies := [lost] }).fail "spare"

theorem expansion_madeOfLookups_outageRegistry :
    ((ofStores ["spare", "main"] {} outageRegistry {}).expansion appRelease 1 =
          .error (.artifactNotFound appRelease) ↔
        (ofStores ["spare", "main"] {} outageRegistry {}).dependencies appRelease =
          .error (.artifactNotFound appRelease)) ∧
      ∃ tree, (ofStores ["spare", "main"] {} outageRegistry {}).expansion appRelease 1 = .ok tree ∧
        (ofStores ["spare", "main"] {} outageRegistry {}).MadeOfLookups ["spare", "main"]
          appRelease 1 tree := by
  have sees : (ofStores ["spare", "main"] {} outageRegistry {}).observed =
      .ok ["spare", "main"] := rfl
  have answered : (ofStores ["spare", "main"] {} outageRegistry {}).dependencies appRelease =
      .ok [{ group := "org", artifact := "lost", version := "1" }] := rfl
  have madeOfLookups := expansion_madeOfLookups sees appRelease 1
  refine ⟨madeOfLookups.1, madeOfLookups.2 ?_⟩
  rw [answered]
  intro impossible
  cases impossible

end QuerySources

end ArtifactCatalog
