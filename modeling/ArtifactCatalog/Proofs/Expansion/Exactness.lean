/-
The expansion of a release holds exactly the releases within its limit, each
once, with their distances from the root and the nearest first.
-/

import ArtifactCatalog.Proofs.Expansion.Frontier
import ArtifactCatalog.Proofs.Query.Catalog
import ArtifactCatalog.Proofs.Query.Holders

namespace ArtifactCatalog

namespace DeclaredGraph

theorem toNat_depth_node (graph : DeclaredGraph) (release : Release) {depth limit : Nat}
    (within : depth ≤ limit) (isWord : limit < UInt64.size) :
    (graph.node release depth).depth.toNat = depth :=
  UInt64.toNat_ofNat_of_lt' (Nat.lt_of_le_of_lt within isWord)

/-! ### What a run visits -/

structure Visits (graph : DeclaredGraph) (root : Release) (limit : Nat)
    (queue : List (Release × Nat)) (met : List Release) (nodes : List ExpansionNode) : Prop where
  once : (nodes.map (·.release)).Nodup
  queued : ∀ entry ∈ queue, entry.1 ∈ nodes.map (·.release)
  new : ∀ node ∈ nodes, node.release ∈ queue.map Prod.fst ∨ node.release ∉ met
  measured : ∀ node ∈ nodes, ∃ depth ≤ limit, node = graph.node node.release depth ∧
    IsDistance graph.Leads root node.release depth
  ascends : nodes.Pairwise fun earlier later => earlier.depth ≤ later.depth
  complete : ∀ length ≤ limit, ∀ target, Walk graph.Leads root length target →
    target ∈ met ∨ target ∈ nodes.map (·.release)

variable {graph : DeclaredGraph} {root release : Release} {limit depth : Nat}
  {queue rest : List (Release × Nat)} {met laterMet : List Release}
  {nodes : List ExpansionNode}

/-- Only releases that are as far as the head of the queue are visited after it. -/
theorem Visits.depth_le
    (frontier : Frontier graph root limit ((release, depth) :: rest) met)
    (later : Visits graph root limit queue laterMet nodes)
    (added : ∀ entry ∈ queue, entry ∈ rest ∨ entry.1 ∉ met)
    (kept : ∀ target ∈ met, target ∈ laterMet)
    {node : ExpansionNode} (member : node ∈ nodes) {distance : Nat}
    (exact : IsDistance graph.Leads root node.release distance) : depth ≤ distance := by
  apply Nat.le_of_not_lt
  intro nearer
  have isMet : node.release ∈ met :=
    frontier.mem_met_of_walk_le_head exact.walk (Nat.le_of_lt nearer)
  rcases later.new node member with queued | unmet
  · obtain ⟨entry, isQueued, same⟩ := List.mem_map.1 queued
    rcases added entry isQueued with old | unmet
    · have behind := (List.pairwise_cons.1 frontier.ascends).1 entry old
      have measured := frontier.distances entry (List.mem_cons_of_mem _ old)
      rw [same] at measured
      have equal := measured.unique exact
      change depth ≤ entry.2 at behind
      omega
    · rw [same] at unmet
      exact unmet isMet
  · exact unmet (kept node.release isMet)

theorem Visits.cons (isWord : limit < UInt64.size)
    (frontier : Frontier graph root limit ((release, depth) :: rest) met)
    (later : Visits graph root limit queue laterMet nodes)
    (stays : ∀ entry ∈ rest, entry ∈ queue)
    (added : ∀ entry ∈ queue, entry ∈ rest ∨ entry.1 ∉ met)
    (kept : ∀ target ∈ met, target ∈ laterMet)
    (grown : ∀ target ∈ laterMet, target ∈ met ∨ target ∈ queue.map Prod.fst) :
    Visits graph root limit ((release, depth) :: rest) met
      (graph.node release depth :: nodes) where
  once := by
    rw [List.map_cons, List.nodup_cons]
    refine ⟨?_, later.once⟩
    intro again
    obtain ⟨node, member, same⟩ := List.mem_map.1 again
    change node.release = release at same
    have headMet : release ∈ met := frontier.queuedMet (release, depth) List.mem_cons_self
    rcases later.new node member with queued | unmet
    · obtain ⟨entry, isQueued, sameEntry⟩ := List.mem_map.1 queued
      rw [same] at sameEntry
      rcases added entry isQueued with old | unmet
      · apply (List.nodup_cons.1 frontier.queuedOnce).1
        exact List.mem_map.2 ⟨entry, old, sameEntry⟩
      · rw [sameEntry] at unmet
        exact unmet headMet
    · rw [same] at unmet
      exact unmet (kept release headMet)
  queued := by
    intro entry member
    rw [List.map_cons, List.mem_cons]
    rcases List.mem_cons.1 member with atHead | old
    · left
      rw [atHead]
      rfl
    · exact Or.inr (later.queued entry (stays entry old))
  new := by
    intro node member
    rw [List.map_cons, List.mem_cons]
    rcases List.mem_cons.1 member with atHead | old
    · rw [atHead]
      exact Or.inl (Or.inl rfl)
    · rcases later.new node old with queued | unmet
      · obtain ⟨entry, isQueued, same⟩ := List.mem_map.1 queued
        rw [← same]
        rcases added entry isQueued with stayed | unmet
        · exact Or.inl (Or.inr (List.mem_map_of_mem stayed))
        · exact Or.inr unmet
      · exact Or.inr fun isMet => unmet (kept node.release isMet)
  measured := by
    intro node member
    rcases List.mem_cons.1 member with atHead | old
    · rw [atHead]
      exact ⟨depth, frontier.within (release, depth) List.mem_cons_self, rfl,
        frontier.distances (release, depth) List.mem_cons_self⟩
    · exact later.measured node old
  ascends := by
    rw [List.pairwise_cons]
    refine ⟨?_, later.ascends⟩
    intro node member
    obtain ⟨distance, within, same, exact⟩ := later.measured node member
    have headWithin := frontier.within (release, depth) List.mem_cons_self
    rw [same, UInt64.le_iff_toNat_le, toNat_depth_node graph release headWithin isWord,
      toNat_depth_node graph node.release within isWord]
    exact Visits.depth_le frontier later added kept member exact
  complete := by
    intro length within target walk
    rw [List.map_cons, List.mem_cons]
    rcases later.complete length within target walk with isMet | visited
    · rcases grown target isMet with old | queued
      · exact Or.inl old
      · obtain ⟨entry, isQueued, same⟩ := List.mem_map.1 queued
        rw [← same]
        exact Or.inr (Or.inr (later.queued entry isQueued))
    · exact Or.inr (Or.inr visited)

theorem visits_expandQueue (isWord : limit < UInt64.size)
    (frontier : Frontier graph root limit queue met) :
    Visits graph root limit queue met (graph.expandQueue limit queue met).1 := by
  induction queue, met using expandQueue.induct graph limit with
  | case1 met =>
      rw [expandQueue_nil]
      refine ⟨List.nodup_nil, ?_, ?_, ?_, List.Pairwise.nil, ?_⟩
      · intro entry member
        cases member
      · intro node member
        cases member
      · intro node member
        cases member
      · intro length within target walk
        left
        apply frontier.mem_met_of_walk walk within
        intro entry member
        cases member
  | case2 met release depth rest fresh above _nodes _truncated _run ih =>
      rw [expandQueue_of_lt graph release rest met above]
      apply (ih (frontier.expand above)).cons isWord frontier
      · intro entry member
        exact List.mem_append_left _ member
      · intro entry member
        rcases List.mem_append.1 member with old | isNew
        · exact Or.inl old
        · obtain ⟨next, isFresh, rfl⟩ := List.mem_map.1 isNew
          exact Or.inr (mem_fresh.1 isFresh).2
      · intro target isMet
        exact List.mem_append_right _ isMet
      · intro target isMet
        rcases List.mem_append.1 isMet with isFresh | old
        · right
          rw [List.map_append, List.mem_append]
          exact Or.inr (List.mem_map.2 ⟨(target, depth + 1),
            List.mem_map.2 ⟨target, isFresh, rfl⟩, rfl⟩)
        · exact Or.inl old
  | case3 met release depth rest atLimit _nodes _truncated _run ih =>
      have reached : limit ≤ depth := Nat.not_lt.1 atLimit
      rw [expandQueue_of_le graph release rest met reached]
      apply (ih (frontier.leave reached)).cons isWord frontier
      · intro entry member
        exact member
      · intro entry member
        exact Or.inl member
      · intro target isMet
        exact isMet
      · intro target isMet
        exact Or.inl isMet

end DeclaredGraph

/-! ### The expansion as an answer -/

/-- An expansion that holds exactly the releases within a limit of its root. -/
structure Expansion.IsExact (tree : Expansion) (links : Release → Release → Prop)
    (root : Release) (limit : Nat) : Prop where
  rootFirst : ∃ node later, tree.nodes = node :: later ∧ node.release = root ∧ node.depth = 0
  once : (tree.nodes.map (·.release)).Nodup
  covers : ∀ release, release ∈ tree.nodes.map (·.release) ↔
    ∃ distance, distance ≤ limit ∧ IsDistance links root release distance
  measured : ∀ node ∈ tree.nodes, IsDistance links root node.release node.depth.toNat
  ascends : tree.nodes.Pairwise fun earlier later => earlier.depth ≤ later.depth

namespace DeclaredGraph

variable {graph : DeclaredGraph} {root : Release}

theorem nodes_expand_cons (graph : DeclaredGraph) (root : Release) (limit : UInt64) :
    ∃ later, (graph.expand root limit).nodes = graph.node root 0 :: later := by
  rcases Nat.lt_or_ge 0 limit.toNat with above | atLimit
  · exact ⟨_, congrArg Prod.fst (expandQueue_of_lt graph root [] [root] above)⟩
  · exact ⟨_, congrArg Prod.fst (expandQueue_of_le graph root [] [root] atLimit)⟩

theorem visits_expand (graph : DeclaredGraph) (root : Release) (limit : UInt64) :
    Visits graph root limit.toNat [(root, 0)] [root] (graph.expand root limit).nodes :=
  visits_expandQueue limit.toNat_lt_size (frontier_initial graph root limit.toNat)

theorem measured_of_mem_expand {limit : UInt64} {node : ExpansionNode}
    (member : node ∈ (graph.expand root limit).nodes) :
    node = graph.node node.release node.depth.toNat ∧ node.depth.toNat ≤ limit.toNat ∧
      IsDistance graph.Leads root node.release node.depth.toNat := by
  obtain ⟨depth, within, same, exact⟩ := (visits_expand graph root limit).measured node member
  have asWord : node.depth.toNat = depth := by
    rw [same]
    exact toNat_depth_node graph node.release within limit.toNat_lt_size
  rw [asWord]
  exact ⟨same, within, exact⟩

theorem dependencies_of_mem_expand {limit : UInt64} {node : ExpansionNode}
    (member : node ∈ (graph.expand root limit).nodes) :
    node.dependencies = graph.dependencies node.release :=
  congrArg ExpansionNode.dependencies (measured_of_mem_expand member).1

theorem mem_expand_of_walk {limit : UInt64} {target : Release} {length : Nat}
    (walk : Walk graph.Leads root length target) (within : length ≤ limit.toNat) :
    target ∈ (graph.expand root limit).nodes.map (·.release) := by
  have visits := visits_expand graph root limit
  rcases visits.complete length within target walk with isRoot | visited
  · rw [List.mem_singleton.1 isRoot]
    exact visits.queued (root, 0) (List.mem_singleton_self _)
  · exact visited

theorem isExact_expand (graph : DeclaredGraph) (root : Release) (limit : UInt64) :
    (graph.expand root limit).IsExact graph.Leads root limit.toNat where
  rootFirst := by
    obtain ⟨later, split⟩ := nodes_expand_cons graph root limit
    exact ⟨graph.node root 0, later, split, rfl, rfl⟩
  once := (visits_expand graph root limit).once
  covers := by
    intro release
    constructor
    · intro member
      obtain ⟨node, isNode, rfl⟩ := List.mem_map.1 member
      exact ⟨node.depth.toNat, (measured_of_mem_expand isNode).2⟩
    · rintro ⟨distance, within, exact⟩
      exact mem_expand_of_walk exact.walk within
  measured _node member := (measured_of_mem_expand member).2.2
  ascends := (visits_expand graph root limit).ascends

end DeclaredGraph

namespace QuerySources

variable {sources : QuerySources} {observed : List String}

/-- The answers to the caller's dependency queries link one release to another. -/
def Declares (sources : QuerySources) (release next : Release) : Prop :=
  ∃ dependencies, sources.dependencies release = .ok dependencies ∧
    ∃ dependency ∈ dependencies, dependency.release = next

theorem declares_eq_leads (sees : sources.observed = .ok observed) :
    sources.Declares = (DeclaredGraph.ofRegistry sources.registry observed).Leads := by
  funext release next
  rw [eq_iff_iff, DeclaredGraph.leads_iff]
  change _ ↔ ∃ dependency ∈ (sources.registry.dependencies? observed release).getD [],
    dependency.release = next
  unfold Declares
  simp only [dependencies_eq_ok_iff sees]
  cases sources.registry.dependencies? observed release with
  | none => simp
  | some declared => simp

/-- The expansion of a release that an observed repository holds: exactly the
releases within the limit in the graph of the caller's own dependency queries,
each once, at its shortest distance, the nearest first, and the root in front. -/
theorem expansion_isExact (sees : sources.observed = .ok observed) {root : Release}
    (held : ∃ repository ∈ observed, ∃ metadata, sources.registry.Holds repository root metadata)
    (limit : UInt64) :
    ∃ tree, sources.expansion root limit = .ok tree ∧
      tree.IsExact sources.Declares root limit.toNat := by
  have declared := Registry.isSome_dependencies?_iff.2 held
  refine ⟨_, (expansion_eq sees root limit).trans (if_pos declared), ?_⟩
  rw [declares_eq_leads sees]
  exact DeclaredGraph.isExact_expand _ root limit

def declaring (names : List String) : ReleaseMetadata where
  version := "1"
  dependencies := names.map fun name => { group := "org", artifact := name, version := "1" }

/-- Two releases depend on each other, and the third on itself, on both of them
and on one that no repository holds. -/
def cyclicRegistry : Registry :=
  ((({} : Registry).addRelease "main" "org" "util" (declaring ["core"])).addRelease
    "main" "org" "core" (declaring ["util", "app"])).addRelease
      "main" "org" "app" (declaring ["app", "core", "util", "lost"])

theorem expansion_isExact_cyclicRegistry :
    ∃ tree, (ofStores ["main"] {} cyclicRegistry {}).expansion
        { group := "org", artifact := "app", version := "1" } 1 = .ok tree ∧
      tree.IsExact (ofStores ["main"] {} cyclicRegistry {}).Declares
        { group := "org", artifact := "app", version := "1" } 1 := by
  have held : cyclicRegistry.Holds "main" { group := "org", artifact := "app", version := "1" }
      (declaring ["app", "core", "util", "lost"]) := by
    constructor
    · exact List.not_mem_nil
    · rfl
  exact expansion_isExact rfl ⟨"main", List.mem_singleton_self _, _, held⟩ 1

end QuerySources

end ArtifactCatalog
