/-
What an expansion leaves out. A run that has come to its limit only empties its queue, and
it is cut exactly when a release of the last level leads on. So the flag of an expansion
tells whether some release lies just below the limit.
-/

import ArtifactCatalog.Proofs.Expansion.Exactness

namespace ArtifactCatalog

namespace DeclaredGraph

variable {graph : DeclaredGraph} {root release target : Release} {limit depth : Nat}
  {queue rest : List (Release × Nat)} {met : List Release}

/-! ### The last level -/

def queuedNodes (graph : DeclaredGraph) (queue : List (Release × Nat)) : List ExpansionNode :=
  queue.map fun entry => graph.node entry.1 entry.2

def leavesOut (graph : DeclaredGraph) (queue : List (Release × Nat)) (met : List Release) : Bool :=
  queue.any fun entry => !(graph.fresh met entry.1).isEmpty

theorem expandQueue_of_forall_le (graph : DeclaredGraph) (met : List Release)
    (atLimit : ∀ entry ∈ queue, limit ≤ entry.2) :
    graph.expandQueue limit queue met = (graph.queuedNodes queue, graph.leavesOut queue met) := by
  induction queue with
  | nil => exact graph.expandQueue_nil limit met
  | cons entry rest ih =>
      obtain ⟨release, depth⟩ := entry
      rw [expandQueue_of_le graph release rest met (atLimit (release, depth) List.mem_cons_self),
        ih fun entry member => atLimit entry (List.mem_cons_of_mem _ member)]
      rfl

theorem leavesOut_eq_true_iff :
    graph.leavesOut queue met = true ↔
      ∃ entry ∈ queue, ∃ next, graph.Leads entry.1 next ∧ next ∉ met := by
  unfold leavesOut
  rw [List.any_eq_true]
  refine exists_congr fun entry => and_congr_right fun _member => ?_
  rw [Bool.not_eq_true', List.isEmpty_eq_false_iff_exists_mem]
  exact exists_congr fun next => mem_fresh

/-! ### The boundary of a run -/

/-- A run that has not visited the last level yet. Its queue is also a frontier of the next
deeper limit, and it has met nothing below its own. -/
structure Boundary (graph : DeclaredGraph) (root : Release) (limit : Nat)
    (queue : List (Release × Nat)) (met : List Release) : Prop
    extends Frontier graph root (limit + 1) queue met where
  queuedNear : ∀ entry ∈ queue, entry.2 ≤ limit
  metNear : ∀ release ∈ met, ∃ length ≤ limit, Walk graph.Leads root length release

theorem boundary_initial (graph : DeclaredGraph) (root : Release) (limit : Nat) :
    Boundary graph root limit [(root, 0)] [root] where
  toFrontier := frontier_initial graph root (limit + 1)
  queuedNear := by
    intro entry member
    rw [List.mem_singleton.1 member]
    exact Nat.zero_le limit
  metNear := by
    intro release member
    rw [List.mem_singleton.1 member]
    exact ⟨0, Nat.zero_le limit, .start⟩

theorem Boundary.expand (boundary : Boundary graph root limit ((release, depth) :: rest) met)
    (above : depth < limit) :
    Boundary graph root limit (rest ++ (graph.fresh met release).map (·, depth + 1))
      (graph.fresh met release ++ met) where
  toFrontier := boundary.toFrontier.expand (Nat.lt_succ_of_lt above)
  queuedNear entry member := Nat.le_trans (boundary.toFrontier.levels_expand member).2 above
  metNear := by
    intro target isMet
    rcases List.mem_append.1 isMet with isFresh | wasMet
    · exact ⟨depth + 1, above, (boundary.toFrontier.isDistance_fresh isFresh).walk⟩
    · exact boundary.metNear target wasMet

theorem Boundary.not_mem_met (boundary : Boundary graph root limit queue met)
    (beyond : IsDistance graph.Leads root target (limit + 1)) : target ∉ met := by
  intro isMet
  obtain ⟨length, near, walk⟩ := boundary.metNear target isMet
  have far := beyond.shortest length walk
  omega

theorem Boundary.leavesOut_iff (boundary : Boundary graph root limit queue met)
    (atLimit : ∀ entry ∈ queue, limit ≤ entry.2) :
    graph.leavesOut queue met = true ↔
      ∃ target, IsDistance graph.Leads root target (limit + 1) := by
  -- All that lies on the last level or above it is met by now.
  have metOfWalk {target : Release} {length : Nat} (walk : Walk graph.Leads root length target)
      (near : length ≤ limit) : target ∈ met := by
    apply boundary.toFrontier.mem_met_of_walk walk (Nat.le_succ_of_le near)
    intro entry member
    exact Nat.le_trans near (atLimit entry member)
  rw [leavesOut_eq_true_iff]
  constructor
  · rintro ⟨entry, member, next, leads, unmet⟩
    have level : entry.2 = limit :=
      Nat.le_antisymm (boundary.queuedNear entry member) (atLimit entry member)
    have atEntry := boundary.distances entry member
    rw [level] at atEntry
    refine ⟨next, .link atEntry.walk leads, ?_⟩
    intro length walk
    apply Nat.lt_of_not_le
    intro near
    exact unmet (metOfWalk walk near)
  · rintro ⟨target, beyond⟩
    cases beyond.walk with
    | @link _length last _target walk leads =>
        have unmet := boundary.not_mem_met beyond
        rcases boundary.closed last (metOfWalk walk (Nat.le_refl limit)) limit
            (Nat.lt_succ_self limit) walk with queued | closed
        · obtain ⟨entry, member, rfl⟩ := List.mem_map.1 queued
          exact ⟨entry, member, target, leads, unmet⟩
        · exact absurd (closed target leads) unmet

theorem truncated_expandQueue_iff (boundary : Boundary graph root limit queue met) :
    (graph.expandQueue limit queue met).2 = true ↔
      ∃ target, IsDistance graph.Leads root target (limit + 1) := by
  induction queue, met using expandQueue.induct graph limit with
  | case1 met =>
      have atLimit : ∀ entry ∈ ([] : List (Release × Nat)), limit ≤ entry.2 := by
        intro entry member
        cases member
      rw [expandQueue_of_forall_le graph met atLimit]
      exact boundary.leavesOut_iff atLimit
  | case2 met release depth rest fresh above _nodes _truncated _run ih =>
      rw [expandQueue_of_lt graph release rest met above]
      exact ih (boundary.expand above)
  | case3 met release depth rest below _nodes _truncated _run _ih =>
      -- The flag is not settled by this visit, so the whole queue is taken at once.
      have atLimit := boundary.toFrontier.forall_le_of_head (Nat.not_lt.1 below)
      rw [expandQueue_of_forall_le graph met atLimit]
      exact boundary.leavesOut_iff atLimit

theorem truncated_expand_iff (graph : DeclaredGraph) (root : Release) (limit : UInt64) :
    (graph.expand root limit).truncated = true ↔
      ∃ target, IsDistance graph.Leads root target (limit.toNat + 1) :=
  truncated_expandQueue_iff (boundary_initial graph root limit.toNat)

end DeclaredGraph

/-! ### The flag -/

/-- The flag of an expansion is set exactly when it leaves out a release just below its
limit, and exactly when one of its nodes leads out of it. -/
structure Expansion.FlagIsExact (tree : Expansion) (links : Release → Release → Prop)
    (root : Release) (limit : Nat) : Prop where
  beyond : tree.truncated = true ↔ ∃ release, IsDistance links root release (limit + 1)
  leadsOut : tree.truncated = true ↔
    ∃ node ∈ tree.nodes, ∃ dependency ∈ node.dependencies,
      dependency.release ∉ tree.nodes.map (·.release)
  closed : tree.truncated = false →
    ∀ release ∈ tree.nodes.map (·.release), ∀ next, links release next →
      next ∈ tree.nodes.map (·.release)

namespace DeclaredGraph

variable {graph : DeclaredGraph} {root : Release} {limit : UInt64}

theorem mem_expand_or_isDistance {release next : Release}
    (member : release ∈ (graph.expand root limit).nodes.map (·.release))
    (leads : graph.Leads release next) :
    next ∈ (graph.expand root limit).nodes.map (·.release) ∨
      IsDistance graph.Leads root next (limit.toNat + 1) := by
  obtain ⟨distance, within, isDistance⟩ :=
    ((isExact_expand graph root limit).covers release).1 member
  by_cases inside : next ∈ (graph.expand root limit).nodes.map (·.release)
  · exact .inl inside
  · right
    have walk : Walk graph.Leads root (distance + 1) next := .link isDistance.walk leads
    have far (length : Nat) (other : Walk graph.Leads root length next) :
        limit.toNat + 1 ≤ length := by
      apply Nat.lt_of_not_le
      intro near
      exact inside (mem_expand_of_walk other near)
    have same : distance + 1 = limit.toNat + 1 :=
      Nat.le_antisymm (Nat.succ_le_succ within) (far (distance + 1) walk)
    rw [same] at walk
    exact ⟨walk, far⟩

theorem not_mem_expand_of_isDistance {target : Release}
    (beyond : IsDistance graph.Leads root target (limit.toNat + 1)) :
    target ∉ (graph.expand root limit).nodes.map (·.release) := by
  intro member
  obtain ⟨distance, within, isDistance⟩ :=
    ((isExact_expand graph root limit).covers target).1 member
  have same := isDistance.unique beyond
  omega

theorem flagIsExact_expand (graph : DeclaredGraph) (root : Release) (limit : UInt64) :
    (graph.expand root limit).FlagIsExact graph.Leads root limit.toNat where
  beyond := truncated_expand_iff graph root limit
  leadsOut := by
    rw [truncated_expand_iff]
    constructor
    · rintro ⟨target, beyond⟩
      cases beyond.walk with
      | @link _length last _target walk leads =>
          obtain ⟨node, isNode, same⟩ :=
            List.mem_map.1 (mem_expand_of_walk walk (Nat.le_refl limit.toNat))
          obtain ⟨dependency, declared, rfl⟩ := leads_iff.1 leads
          refine ⟨node, isNode, dependency, ?_, not_mem_expand_of_isDistance beyond⟩
          rw [dependencies_of_mem_expand isNode, same]
          exact declared
    · rintro ⟨node, isNode, dependency, declared, outside⟩
      rw [dependencies_of_mem_expand isNode] at declared
      have leads : graph.Leads node.release dependency.release :=
        leads_iff.2 ⟨dependency, declared, rfl⟩
      rcases mem_expand_or_isDistance (List.mem_map_of_mem isNode) leads with inside | beyond
      · exact absurd inside outside
      · exact ⟨dependency.release, beyond⟩
  closed := by
    intro whole release member next leads
    rcases mem_expand_or_isDistance member leads with inside | beyond
    · exact inside
    · have cut := (truncated_expand_iff graph root limit).2 ⟨next, beyond⟩
      rw [whole] at cut
      cases cut

end DeclaredGraph

namespace QuerySources

variable {sources : QuerySources} {observed : List String}

theorem expansion_of_holds (sees : sources.observed = .ok observed) {root : Release}
    (held : ∃ repository ∈ observed, ∃ metadata, sources.registry.Holds repository root metadata)
    (limit : UInt64) :
    sources.expansion root limit =
      .ok ((DeclaredGraph.ofRegistry sources.registry observed).expand root limit) :=
  (expansion_eq sees root limit).trans (if_pos (Registry.isSome_dependencies?_iff.2 held))

/-- The expansion of a release that an observed repository holds is marked as truncated
exactly when some release lies just below its limit, that is, when one of its nodes
declares a dependency that has no node. -/
theorem expansion_flagIsExact (sees : sources.observed = .ok observed) {root : Release}
    (held : ∃ repository ∈ observed, ∃ metadata, sources.registry.Holds repository root metadata)
    (limit : UInt64) :
    ∃ tree, sources.expansion root limit = .ok tree ∧
      tree.FlagIsExact sources.Declares root limit.toNat := by
  refine ⟨_, expansion_of_holds sees held limit, ?_⟩
  rw [declares_eq_leads sees]
  exact DeclaredGraph.flagIsExact_expand _ root limit

def appRelease : Release where
  group := "org"
  artifact := "app"
  version := "1"

theorem cyclicRegistry_holds_app :
    ∃ repository ∈ ["main"], ∃ metadata, cyclicRegistry.Holds repository appRelease metadata :=
  ⟨"main", List.mem_singleton_self _, declaring ["app", "core", "util", "lost"],
    List.not_mem_nil, rfl⟩

theorem expansion_flagIsExact_cyclicRegistry :
    ∃ tree, (ofStores ["main"] {} cyclicRegistry {}).expansion appRelease 1 = .ok tree ∧
      tree.FlagIsExact (ofStores ["main"] {} cyclicRegistry {}).Declares appRelease 1 :=
  expansion_flagIsExact rfl cyclicRegistry_holds_app 1

end QuerySources

end ArtifactCatalog
