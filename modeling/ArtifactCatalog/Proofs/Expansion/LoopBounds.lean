/-
The bounds of the expansion loop. Between two visits the nodes of the tree and then the waiting
ones are the releases that were met, in the order in which they were met and each once. All but
the root are named by a recorded dependency, so the loop ends after as many visits as there are
such releases at most, at any limit.
-/

import ArtifactCatalog.Proofs.Expansion.Closure
import ArtifactCatalog.Proofs.Expansion.NodeAnswers

namespace ArtifactCatalog

/-! ### Levels above a limit -/

theorem toNat_add_one_of_lt {depth limit : UInt64} (above : depth < limit) :
    (depth + 1).toNat = depth.toNat + 1 := by
  have inside : depth.toNat < limit.toNat := UInt64.lt_iff_toNat_lt.1 above
  have isWord := limit.toNat_lt_size
  rw [UInt64.toNat_add, UInt64.toNat_one]
  exact Nat.mod_eq_of_lt (Nat.lt_of_le_of_lt inside isWord)

namespace DeclaredGraph

def Makes (graph : DeclaredGraph) (limit : UInt64) : LoopState → Nat → LoopState → Prop :=
  Walk fun state next => graph.visit? limit state = some next

def opened (limit : UInt64) (met : List Release) (node : ExpansionNode) : List Release :=
  if node.depth < limit then firstMet met node.dependencies else []

def visitState (graph : DeclaredGraph) (limit : UInt64) (state : LoopState)
    (node : ExpansionNode) (rest : List ExpansionNode) (truncated : Bool) : LoopState where
  waiting := rest ++ (opened limit state.met node).map fun next =>
    graph.lookUp next (node.depth + 1)
  met := (opened limit state.met node).reverse ++ state.met
  asked := state.asked ++ opened limit state.met node
  tree := { state.tree with nodes := state.tree.nodes ++ [node], truncated }

structure Orderly (graph : DeclaredGraph) (root : Release) (limit : UInt64) (visits : Nat)
    (state : LoopState) : Prop where
  counted : state.tree.nodes.length = visits
  inOrder : (state.tree.nodes ++ state.waiting).map (·.release) = state.met.reverse
  askedInOrder : state.asked = state.met.reverse
  metOnce : state.met.Nodup
  metNamed : ∀ release ∈ state.met, release = root ∨ release ∈ graph.named
  declaredNamed : ∀ node ∈ state.waiting, ∀ dependency ∈ node.dependencies,
    dependency.release ∈ graph.named
  within : ∀ node ∈ state.waiting, node.depth ≤ limit
  nearTo : ∀ node ∈ state.waiting, node.depth.toNat ≤ visits

variable {graph : DeclaredGraph} {root release : Release} {limit : UInt64} {visits : Nat}
  {state next : LoopState} {node parent : ExpansionNode} {rest : List ExpansionNode}
  {met : List Release}

/-! ### What a visit meets -/

theorem nodup_opened (limit : UInt64) (met : List Release) (node : ExpansionNode) :
    (opened limit met node).Nodup := by
  unfold opened
  split
  · exact (nodup_eraseDups _).filter _
  · exact List.nodup_nil

theorem of_mem_opened (isOpened : release ∈ opened limit met node) :
    node.depth < limit ∧ (∃ dependency ∈ node.dependencies, dependency.release = release) ∧
      release ∉ met := by
  unfold opened at isOpened
  split at isOpened
  · next above =>
      obtain ⟨declared, unmet⟩ := mem_firstMet.1 isOpened
      exact ⟨above, List.mem_map.1 declared, unmet⟩
  · cases isOpened

theorem visit?_of_waiting (isWaiting : state.waiting = node :: rest)
    (absent : ∀ other ∈ state.tree.nodes, other.release ≠ node.release) :
    ∃ truncated, graph.visit? limit state =
      some (graph.visitState limit state node rest truncated) := by
  unfold visit? visitState opened
  rw [isWaiting]
  dsimp only
  by_cases above : node.depth < limit
  · rw [foldl_meet_of_lt above, if_pos above, Expansion.add_of_not_mem]
    · exact ⟨state.tree.truncated, rfl⟩
    · exact absent
  · rw [foldl_meet_of_le (UInt64.not_lt.1 above), if_neg above, List.map_nil, List.append_nil,
      List.append_nil, Expansion.add_of_not_mem]
    · exact ⟨_, rfl⟩
    · exact absent

/-! ### Every state of the loop -/

theorem orderly_loopStart {dependencies : List Dependency}
    (declared : graph.dependencies? root = some dependencies) (limit : UInt64) :
    Orderly graph root limit 0 (loopStart root dependencies) where
  counted := rfl
  inOrder := rfl
  askedInOrder := rfl
  metOnce := List.nodup_singleton root
  metNamed := by
    intro release isMet
    exact .inl (List.mem_singleton.1 isMet)
  declaredNamed := by
    intro node isWaiting
    rw [List.mem_singleton.1 isWaiting]
    exact graph.isNamed root dependencies declared
  within := by
    intro node isWaiting
    rw [List.mem_singleton.1 isWaiting]
    exact UInt64.zero_le
  nearTo := by
    intro node isWaiting
    rw [List.mem_singleton.1 isWaiting]
    exact Nat.le_refl 0

theorem Orderly.absent (orderly : Orderly graph root limit visits state)
    (isWaiting : state.waiting = node :: rest) :
    ∀ other ∈ state.tree.nodes, other.release ≠ node.release := by
  have nodup := List.nodup_reverse.2 orderly.metOnce
  rw [← orderly.inOrder, isWaiting, List.map_append, List.nodup_append] at nodup
  intro other isNode
  exact nodup.2.2 _ (List.mem_map_of_mem isNode) _ List.mem_cons_self

/-- What waits after a visit waited before it or was met on it. -/
theorem of_mem_waiting_visitState {truncated : Bool}
    (member : node ∈ (graph.visitState limit state parent rest truncated).waiting) :
    node ∈ rest ∨
      parent.depth < limit ∧ ∃ release, node = graph.lookUp release (parent.depth + 1) := by
  rcases List.mem_append.1 member with old | new
  · exact .inl old
  · obtain ⟨next, isOpened, rfl⟩ := List.mem_map.1 new
    exact .inr ⟨(of_mem_opened isOpened).1, next, rfl⟩

theorem Orderly.visitState (orderly : Orderly graph root limit visits state)
    (isWaiting : state.waiting = node :: rest) (truncated : Bool) :
    Orderly graph root limit (visits + 1) (graph.visitState limit state node rest truncated) := by
  have first : node ∈ state.waiting := by
    rw [isWaiting]
    exact List.mem_cons_self
  have waited : ∀ other ∈ rest, other ∈ state.waiting := by
    intro other member
    rw [isWaiting]
    exact List.mem_cons_of_mem node member
  exact {
    counted := by
      unfold DeclaredGraph.visitState
      rw [List.length_append, orderly.counted, List.length_singleton]
    inOrder := by
      have before := orderly.inOrder
      rw [isWaiting] at before
      simp [DeclaredGraph.visitState, ← before, Function.comp_def]
    askedInOrder := by
      unfold DeclaredGraph.visitState
      rw [List.reverse_append, List.reverse_reverse, orderly.askedInOrder]
    metOnce := by
      unfold DeclaredGraph.visitState
      rw [List.nodup_append]
      refine ⟨List.nodup_reverse.2 (nodup_opened limit state.met node), orderly.metOnce, ?_⟩
      intro release isOpened other isMet same
      rw [List.mem_reverse] at isOpened
      exact (of_mem_opened isOpened).2.2 (same ▸ isMet)
    metNamed := by
      intro release isMet
      rcases List.mem_append.1 isMet with isOpened | wasMet
      · obtain ⟨-, ⟨dependency, declared, rfl⟩, -⟩ := of_mem_opened (List.mem_reverse.1 isOpened)
        exact .inr (orderly.declaredNamed node first dependency declared)
      · exact orderly.metNamed release wasMet
    declaredNamed := by
      intro other member
      rcases of_mem_waiting_visitState member with old | ⟨_above, release, rfl⟩
      · exact orderly.declaredNamed other (waited other old)
      · exact lookUp_named release (node.depth + 1)
    within := by
      intro other member
      rcases of_mem_waiting_visitState member with old | ⟨above, release, rfl⟩
      · exact orderly.within other (waited other old)
      · rw [depth_lookUp, UInt64.le_iff_toNat_le, toNat_add_one_of_lt above]
        exact UInt64.lt_iff_toNat_lt.1 above
    nearTo := by
      intro other member
      rcases of_mem_waiting_visitState member with old | ⟨above, release, rfl⟩
      · exact Nat.le_succ_of_le (orderly.nearTo other (waited other old))
      · rw [depth_lookUp, toNat_add_one_of_lt above]
        exact Nat.succ_le_succ (orderly.nearTo node first) }

theorem Orderly.visit (orderly : Orderly graph root limit visits state)
    (visited : graph.visit? limit state = some next) :
    Orderly graph root limit (visits + 1) next := by
  cases isWaiting : state.waiting with
  | nil =>
      unfold visit? at visited
      rw [isWaiting] at visited
      cases visited
  | cons node rest =>
      obtain ⟨truncated, result⟩ := visit?_of_waiting isWaiting (orderly.absent isWaiting)
      obtain rfl := Option.some.inj (result.symm.trans visited)
      exact orderly.visitState isWaiting truncated

theorem orderly_of_makes {dependencies : List Dependency}
    (declared : graph.dependencies? root = some dependencies)
    (makes : graph.Makes limit (loopStart root dependencies) visits state) :
    Orderly graph root limit visits state := by
  induction makes with
  | start => exact orderly_loopStart declared limit
  | link _walk visited ih => exact ih.visit visited

/-! ### The bound -/

theorem Orderly.map_release (orderly : Orderly graph root limit visits state)
    (isEmpty : state.waiting = []) : state.tree.nodes.map (·.release) = state.met.reverse := by
  rw [← orderly.inOrder, isEmpty, List.append_nil]

theorem Orderly.length_met (orderly : Orderly graph root limit visits state) :
    state.met.length = visits + state.waiting.length := by
  have lengths := congrArg List.length orderly.inOrder
  rw [List.length_map, List.length_append, List.length_reverse, orderly.counted] at lengths
  exact lengths.symm

/-- Visits that were made and nodes that still wait are no more than the releases to meet. -/
theorem Orderly.visits_le (orderly : Orderly graph root limit visits state) :
    visits + state.waiting.length ≤ 1 + graph.named.eraseDups.length := by
  have known : state.met ⊆ root :: graph.named.eraseDups := by
    intro release isMet
    rw [List.mem_cons, List.mem_eraseDups]
    exact orderly.metNamed release isMet
  have bound := (List.subperm_of_subset orderly.metOnce known).length_le
  rw [orderly.length_met, List.length_cons] at bound
  omega

end DeclaredGraph

/-! ### Lookups of a release -/

def Lookup.asksFor (release : Release) : Lookup → Bool
  | .release _ asked => asked == release
  | _ => false

theorem flatMap_ite_of_nodup {α β : Type} [DecidableEq α] {items : List α} (nodup : items.Nodup)
    (image : α → List β) (chosen : α) :
    (items.flatMap fun item => if item = chosen then image item else []) =
      if chosen ∈ items then image chosen else [] := by
  induction items with
  | nil => rfl
  | cons head tail ih =>
      obtain ⟨notAgain, nodupTail⟩ := List.nodup_cons.1 nodup
      rw [List.flatMap_cons, ih nodupTail]
      by_cases atHead : head = chosen
      · subst atHead
        rw [if_pos rfl, if_neg notAgain, if_pos List.mem_cons_self, List.append_nil]
      · rw [if_neg atHead, List.nil_append]
        simp only [List.mem_cons, Ne.symm atHead, false_or]

namespace QuerySources

variable {sources : QuerySources} {observed : List String} {root : Release} {limit : UInt64}
  {dependencies : List Dependency}

theorem filter_asksFor_dependenciesLookups (sources : QuerySources) (release asked : Release) :
    (sources.dependenciesLookups asked).filter (Lookup.asksFor release) =
      if asked = release then sources.dependenciesLookups asked else [] := by
  unfold dependenciesLookups releaseLookups
  rw [List.filter_map]
  by_cases same : asked = release
  · rw [if_pos same, List.filter_eq_self.2]
    intro repository _isAsked
    exact beq_iff_eq.2 same
  · rw [if_neg same, List.filter_eq_nil_iff.2, List.map_nil]
    intro repository _isAsked isSame
    exact same (beq_iff_eq.1 isSame)

theorem filter_asksFor_flatMap {releases : List Release} (nodup : releases.Nodup)
    (release : Release) :
    (releases.flatMap sources.dependenciesLookups).filter (Lookup.asksFor release) =
      if release ∈ releases then sources.dependenciesLookups release else [] := by
  rw [List.filter_flatMap]
  simp only [filter_asksFor_dependenciesLookups]
  exact flatMap_ite_of_nodup nodup sources.dependenciesLookups release

/-! ### The end of the loop -/

def LoopComes (sources : QuerySources) (observed : List String) (root : Release)
    (limit : UInt64) (dependencies : List Dependency) (visits : Nat)
    (state : DeclaredGraph.LoopState) : Prop :=
  (DeclaredGraph.ofRegistry sources.registry observed).Makes limit
    (DeclaredGraph.loopStart root dependencies) visits state

/-- The loop of an expansion ends in the state, after one visit for each node. -/
structure EndsIn (sources : QuerySources) (observed : List String) (root : Release)
    (limit : UInt64) (dependencies : List Dependency) (final : DeclaredGraph.LoopState) :
    Prop where
  comes : sources.LoopComes observed root limit dependencies final.tree.nodes.length final
  isEmpty : final.waiting = []
  answer : sources.expansion root limit = .ok final.tree
  fewNodes : final.tree.nodes.length ≤ 1 + sources.registry.namedReleases.eraseDups.length
  eachOnce : (final.tree.nodes.map (·.release)).Nodup
  /-- The loop has looked up the releases of the nodes, and this makes all its lookups. -/
  asked : final.asked = final.tree.nodes.map (·.release)
  lookups : sources.expansionLookups root limit = final.asked.flatMap sources.dependenciesLookups
  lookedUpOnce : ∀ release, (sources.expansionLookups root limit).filter (Lookup.asksFor release) =
    if release ∈ final.tree.nodes.map (·.release) then sources.dependenciesLookups release else []
  orderly : ∀ visits state, sources.LoopComes observed root limit dependencies visits state →
    (DeclaredGraph.ofRegistry sources.registry observed).Orderly root limit visits state
  /-- No run of the loop is longer than there are releases to meet. -/
  bounded : ∀ visits state, sources.LoopComes observed root limit dependencies visits state →
    visits + state.waiting.length ≤ 1 + sources.registry.namedReleases.eraseDups.length
  /-- One level more than that of a node above the limit is still a word. -/
  room : ∀ visits state, sources.LoopComes observed root limit dependencies visits state →
    ∀ node ∈ state.waiting, node.depth < limit → node.depth.toNat + 1 < UInt64.size

theorem exists_endsIn (sees : sources.observed = .ok observed)
    (answered : sources.dependencies root = .ok dependencies) (limit : UInt64) :
    ∃ final, sources.EndsIn observed root limit dependencies final := by
  have declared := (dependencies_eq_ok_iff sees).1 answered
  obtain ⟨final, loops, isEmpty, sameTree, asked, lookups⟩ :=
    exists_loops_expansionLookups sees declared limit
  obtain ⟨visits, makes⟩ := exists_walk_of_reflTransGen loops
  have atEnd := DeclaredGraph.orderly_of_makes declared makes
  have eachOnce : (final.tree.nodes.map (·.release)).Nodup := by
    rw [atEnd.map_release isEmpty]
    exact List.nodup_reverse.2 atEnd.metOnce
  refine ⟨final, ?_, isEmpty, ?_, ?_, eachOnce, asked, lookups, ?_, ?_, ?_, ?_⟩
  · rw [atEnd.counted]
    exact makes
  · rw [expansion_eq sees, declared, sameTree]
    rfl
  · rw [atEnd.counted]
    exact Nat.le_trans (Nat.le_add_right ..) atEnd.visits_le
  · intro release
    rw [lookups, asked]
    exact filter_asksFor_flatMap eachOnce release
  · intro visits state comes
    exact DeclaredGraph.orderly_of_makes declared comes
  · intro visits state comes
    exact (DeclaredGraph.orderly_of_makes declared comes).visits_le
  · intro visits state _comes node _isWaiting above
    rw [← toNat_add_one_of_lt above]
    exact (node.depth + 1).toNat_lt_size

/-- Where the lookup of the root fails, an expansion fails at once. Otherwise its loop ends,
whatever the limit and however the dependencies lead back: it visits no more than the root and
the distinct releases that recorded dependencies name, each once. -/
theorem expansion_ends (sees : sources.observed = .ok observed) (root : Release)
    (limit : UInt64) :
    (sources.dependencies root = .error (.artifactNotFound root) →
      sources.expansion root limit = .error (.artifactNotFound root)) ∧
    ∀ dependencies, sources.dependencies root = .ok dependencies →
      ∃ final, sources.EndsIn observed root limit dependencies final := by
  refine ⟨(expansion_eq_error_iff sees root limit).2, ?_⟩
  intro dependencies answered
  exact exists_endsIn sees answered limit

theorem expansion_ends_cyclicRegistry :
    ∃ final, (ofStores ["main"] {} cyclicRegistry {}).EndsIn ["main"] appRelease
      18446744073709551615 (declaring ["app", "core", "util", "lost"]).dependencies final := by
  have sees : (ofStores ["main"] {} cyclicRegistry {}).observed = .ok ["main"] := rfl
  exact (expansion_ends sees appRelease 18446744073709551615).2 _ rfl

end QuerySources

end ArtifactCatalog
