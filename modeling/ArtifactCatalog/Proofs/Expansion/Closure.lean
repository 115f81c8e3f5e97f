/-
What the nodes of an expansion lead to, found by a search among them. From the root this is
every other node and every declared dependency. An expansion that leaves nothing out answers
for each of its nodes as a new expansion of that node does.
-/

import ArtifactCatalog.Proofs.Expansion.Reachability
import ArtifactCatalog.Proofs.Expansion.Truncation
import Mathlib.Data.List.Perm.Subperm

namespace ArtifactCatalog

/-! ### Walks and paths -/

variable {α : Type} {links : α → α → Prop} {root target : α} {distance : Nat}

theorem Walk.reflTransGen {length : Nat} (walk : Walk links root length target) :
    Relation.ReflTransGen links root target := by
  induction walk with
  | start => exact .refl
  | link _walk leads ih => exact ih.tail leads

theorem exists_walk_of_reflTransGen (path : Relation.ReflTransGen links root target) :
    ∃ length, Walk links root length target := by
  induction path with
  | refl => exact ⟨0, .start⟩
  | tail _path leads ih =>
      obtain ⟨length, walk⟩ := ih
      exact ⟨length + 1, .link walk leads⟩

/-- A shortest walk does not come to one place twice. -/
theorem IsDistance.exists_nodup (isDistance : IsDistance links root target distance) :
    ∃ places : List α, places.length = distance + 1 ∧ places.Nodup ∧
      ∀ place ∈ places, ∃ length ≤ distance, IsDistance links root place length := by
  induction distance generalizing target with
  | zero =>
      refine ⟨[target], rfl, List.nodup_singleton target, ?_⟩
      intro place member
      rw [List.mem_singleton.1 member]
      exact ⟨0, Nat.le_refl 0, isDistance⟩
  | succ distance ih =>
      cases isDistance.walk with
      | @link _length last _target walk leads =>
          have atLast : IsDistance links root last distance := by
            refine ⟨walk, ?_⟩
            intro length other
            exact Nat.le_of_succ_le_succ (isDistance.shortest (length + 1) (.link other leads))
          obtain ⟨places, size, nodup, near⟩ := ih atLast
          refine ⟨target :: places, congrArg (· + 1) size, List.nodup_cons.2 ⟨?_, nodup⟩, ?_⟩
          · -- All places before the target are nearer to the root than it is.
            intro again
            obtain ⟨length, within, other⟩ := near target again
            have same := isDistance.unique other
            omega
          · intro place member
            rcases List.mem_cons.1 member with atTarget | before
            · rw [atTarget]
              exact ⟨distance + 1, Nat.le_refl _, isDistance⟩
            · obtain ⟨length, within, other⟩ := near place before
              exact ⟨length, Nat.le_succ_of_le within, other⟩

namespace DeclaredGraph

variable {graph : DeclaredGraph} {root start release next target : Release} {limit : UInt64}

/-! ### Links between nodes -/

theorem leads_expand_iff :
    (graph.expand root limit).Leads release next ↔
      release ∈ (graph.expand root limit).nodes.map (·.release) ∧ graph.Leads release next := by
  constructor
  · intro leads
    obtain ⟨node, isNode, rfl, dependency, declared, same⟩ := Expansion.exists_node_of_leads leads
    rw [dependencies_of_mem_expand isNode] at declared
    exact ⟨List.mem_map_of_mem isNode, leads_iff.2 ⟨dependency, declared, same⟩⟩
  · rintro ⟨member, leads⟩
    obtain ⟨dependency, declared, same⟩ := leads_iff.1 leads
    unfold Expansion.Leads Expansion.successors
    cases met : (graph.expand root limit).node? release with
    | none =>
        obtain ⟨node, isNode, rfl⟩ := List.mem_map.1 member
        exact absurd (beq_self_eq_true node.release) (List.find?_eq_none.1 met node isNode)
    | some node =>
        obtain ⟨isNode, sameRelease⟩ := Expansion.mem_and_release_eq_of_node? met
        change next ∈ node.dependencies.map Dependency.release
        rw [dependencies_of_mem_expand isNode, sameRelease]
        exact List.mem_map.2 ⟨dependency, declared, same⟩

theorem leads_expand_le (graph : DeclaredGraph) (root : Release) (limit : UInt64) :
    (graph.expand root limit).Leads ≤ graph.Leads :=
  fun _release _next leads => (leads_expand_iff.1 leads).2

theorem root_mem_expand (graph : DeclaredGraph) (root : Release) (limit : UInt64) :
    root ∈ (graph.expand root limit).nodes.map (·.release) :=
  mem_expand_of_walk .start (Nat.zero_le limit.toNat)

theorem reflTransGen_expand_of_mem
    (member : target ∈ (graph.expand root limit).nodes.map (·.release)) :
    Relation.ReflTransGen (graph.expand root limit).Leads root target := by
  obtain ⟨_distance, within, isDistance⟩ := ((isExact_expand graph root limit).covers target).1 member
  have reached {length : Nat} {target : Release} (walk : Walk graph.Leads root length target)
      (near : length ≤ limit.toNat) :
      Relation.ReflTransGen (graph.expand root limit).Leads root target := by
    induction walk with
    | start => exact .refl
    | @link length last next walk leads ih =>
        have before : length ≤ limit.toNat := Nat.le_of_succ_le near
        exact (ih before).tail (leads_expand_iff.2 ⟨mem_expand_of_walk walk before, leads⟩)
  exact reached isDistance.walk within

/-! ### Expansions that leave nothing out -/

theorem mem_expand_of_leads (whole : (graph.expand root limit).truncated = false)
    (member : release ∈ (graph.expand root limit).nodes.map (·.release))
    (path : Relation.ReflTransGen graph.Leads release target) :
    target ∈ (graph.expand root limit).nodes.map (·.release) := by
  induction path with
  | refl => exact member
  | tail _path leads ih => exact (flagIsExact_expand graph root limit).closed whole _ ih _ leads

theorem mem_expand_iff_reflTransGen (whole : (graph.expand root limit).truncated = false) :
    target ∈ (graph.expand root limit).nodes.map (·.release) ↔
      Relation.ReflTransGen graph.Leads root target := by
  constructor
  · intro member
    exact Relation.ReflTransGen.mono (leads_expand_le graph root limit) _ _
      (reflTransGen_expand_of_mem member)
  · exact mem_expand_of_leads whole (root_mem_expand graph root limit)

theorem transGen_expand_iff (whole : (graph.expand root limit).truncated = false)
    (member : start ∈ (graph.expand root limit).nodes.map (·.release)) :
    Relation.TransGen (graph.expand root limit).Leads start target ↔
      Relation.TransGen graph.Leads start target := by
  constructor
  · exact Relation.TransGen.mono (leads_expand_le graph root limit) start target
  · intro path
    induction path with
    | single leads => exact .single (leads_expand_iff.2 ⟨member, leads⟩)
    | tail path leads ih =>
        exact ih.tail
          (leads_expand_iff.2 ⟨mem_expand_of_leads whole member path.to_reflTransGen, leads⟩)

theorem mem_reachable_expand_iff (whole : (graph.expand root limit).truncated = false)
    (member : start ∈ (graph.expand root limit).nodes.map (·.release)) {other : UInt64}
    (alsoWhole : (graph.expand start other).truncated = false) :
    target ∈ (graph.expand root limit).reachable start ↔
      target ≠ start ∧ target ∈ (graph.expand start other).nodes.map (·.release) := by
  rw [Expansion.mem_reachable_iff, transGen_expand_iff whole member,
    mem_expand_iff_reflTransGen alsoWhole, Relation.reflTransGen_iff_eq_or_transGen]
  exact and_congr_right fun differs => (or_iff_right differs).symm

theorem truncated_expand_eq_false (whole : (graph.expand root limit).truncated = false)
    (member : start ∈ (graph.expand root limit).nodes.map (·.release)) {other : UInt64}
    (deep : (graph.expand root limit).nodes.length ≤ other.toNat + 1) :
    (graph.expand start other).truncated = false := by
  rw [Bool.eq_false_iff]
  intro cut
  obtain ⟨target, beyond⟩ := (truncated_expand_iff graph start other).1 cut
  -- The walk to the release left out comes to more places than there are nodes.
  obtain ⟨places, size, nodup, near⟩ := beyond.exists_nodup
  have inside : places ⊆ (graph.expand root limit).nodes.map (·.release) := by
    intro place isPlace
    obtain ⟨_length, _within, isDistance⟩ := near place isPlace
    exact mem_expand_of_leads whole member isDistance.walk.reflTransGen
  have fewer := (List.subperm_of_subset nodup inside).length_le
  rw [List.length_map] at fewer
  omega

theorem mem_reachable_root_iff :
    target ∈ (graph.expand root limit).reachable root ↔
      target ≠ root ∧ (target ∈ (graph.expand root limit).nodes.map (·.release) ∨
        ∃ node ∈ (graph.expand root limit).nodes, ∃ dependency ∈ node.dependencies,
          dependency.release = target) := by
  rw [Expansion.mem_reachable_iff]
  refine and_congr_right fun differs => ?_
  constructor
  · intro path
    obtain ⟨last, _before, leads⟩ := Relation.TransGen.tail'_iff.1 path
    obtain ⟨node, isNode, _same, declares⟩ := Expansion.exists_node_of_leads leads
    exact .inr ⟨node, isNode, declares⟩
  · rintro (member | ⟨node, isNode, dependency, declared, same⟩)
    · have path := reflTransGen_expand_of_mem member
      exact (Relation.reflTransGen_iff_eq_or_transGen.1 path).resolve_left differs
    · rw [dependencies_of_mem_expand isNode] at declared
      have isMember := List.mem_map_of_mem (f := (·.release)) isNode
      exact .tail' (reflTransGen_expand_of_mem isMember)
        (leads_expand_iff.2 ⟨isMember, leads_iff.2 ⟨dependency, declared, same⟩⟩)

end DeclaredGraph

/-! ### Searches against expansions -/

namespace QuerySources

variable {sources : QuerySources} {observed : List String}

/-- Searches among the nodes of an expansion against expansions. As many levels as there are
nodes are always enough for an expansion of a node to leave nothing out. -/
structure SearchesAgree (sources : QuerySources) (root : Release) (tree : Expansion) : Prop where
  fromRoot : tree.truncated = false → ∀ target,
    target ∈ tree.reachable root ↔ target ≠ root ∧ target ∈ tree.nodes.map (·.release)
  fromNode : tree.truncated = false → ∀ node ∈ tree.nodes, node.resolved = true → ∀ limit,
    ∃ anew, sources.expansion node.release limit = .ok anew ∧
      (tree.nodes.length ≤ limit.toNat + 1 → anew.truncated = false) ∧
      (anew.truncated = false → ∀ target,
        target ∈ tree.reachable node.release ↔
          target ≠ node.release ∧ target ∈ anew.nodes.map (·.release))
  fromRootOfAny : ∀ target,
    target ∈ tree.reachable root ↔
      target ≠ root ∧ (target ∈ tree.nodes.map (·.release) ∨
        ∃ node ∈ tree.nodes, ∃ dependency ∈ node.dependencies, dependency.release = target)

/-- A search from the root of an expansion that leaves nothing out finds its other nodes, and
one from a resolved node finds the other nodes of an expansion of that node. Whether or not
anything is left out, a search from the root finds the other nodes and their dependencies. -/
theorem expansion_searchesAgree (sees : sources.observed = .ok observed) {root : Release}
    (held : ∃ repository ∈ observed, ∃ metadata, sources.registry.Holds repository root metadata)
    (limit : UInt64) :
    ∃ tree, sources.expansion root limit = .ok tree ∧ sources.SearchesAgree root tree := by
  refine ⟨_, expansion_of_holds sees held limit, ?_, ?_, ?_⟩
  · intro whole target
    exact DeclaredGraph.mem_reachable_expand_iff whole
      (DeclaredGraph.root_mem_expand _ root limit) whole
  · intro whole node isNode isResolved other
    have isMember := List.mem_map_of_mem (f := (·.release)) isNode
    have declared : (sources.registry.dependencies? observed node.release).isSome = true := by
      rw [(DeclaredGraph.measured_of_mem_expand isNode).1] at isResolved
      exact isResolved
    refine ⟨_, (expansion_eq sees node.release other).trans (if_pos declared), ?_, ?_⟩
    · exact DeclaredGraph.truncated_expand_eq_false whole isMember
    · intro alsoWhole target
      exact DeclaredGraph.mem_reachable_expand_iff whole isMember alsoWhole
  · intro target
    exact DeclaredGraph.mem_reachable_root_iff

theorem expansion_searchesAgree_cyclicRegistry :
    ∃ tree, (ofStores ["main"] {} cyclicRegistry {}).expansion appRelease 1 = .ok tree ∧
      (ofStores ["main"] {} cyclicRegistry {}).SearchesAgree appRelease tree :=
  expansion_searchesAgree rfl cyclicRegistry_holds_app 1

end QuerySources

end ArtifactCatalog
