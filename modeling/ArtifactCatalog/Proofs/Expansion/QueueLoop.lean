/-
The expansion as a loop over a queue. A release is looked up when it is met, its dependencies
are met one after the other, and what its lookup gave waits with it in the queue until it
becomes a node of the tree. The loop ends, and its tree is the expansion.
-/

import ArtifactCatalog.Proofs.Expansion.Truncation
import Mathlib.Logic.Relation

namespace ArtifactCatalog

theorem Expansion.add_of_not_mem {tree : Expansion} {node : ExpansionNode}
    (absent : ∀ other ∈ tree.nodes, other.release ≠ node.release) :
    tree.add node = { tree with nodes := tree.nodes ++ [node] } := by
  unfold add
  refine if_neg ?_
  intro present
  obtain ⟨other, member, same⟩ := List.any_eq_true.1 present
  exact absent other member (beq_iff_eq.1 same)

namespace DeclaredGraph

/-! ### The loop -/

/-- The loop between two visits, with the releases that it has looked up so far. -/
structure LoopState where
  waiting : List ExpansionNode
  met : List Release
  asked : List Release
  tree : Expansion

def lookUp (graph : DeclaredGraph) (release : Release) (depth : UInt64) : ExpansionNode :=
  match graph.dependencies? release with
  | some dependencies => { release, depth, dependencies, resolved := true }
  | none => { release, depth, dependencies := [], resolved := false }

def meet (graph : DeclaredGraph) (limit : UInt64) (parent : ExpansionNode) (state : LoopState)
    (dependency : Dependency) : LoopState :=
  if dependency.release ∈ state.met then state
  else if limit ≤ parent.depth then
    { state with tree := { state.tree with truncated := true } }
  else
    { state with
      waiting := state.waiting ++ [graph.lookUp dependency.release (parent.depth + 1)]
      met := dependency.release :: state.met
      asked := state.asked ++ [dependency.release] }

def visit? (graph : DeclaredGraph) (limit : UInt64) (state : LoopState) : Option LoopState :=
  match state.waiting with
  | [] => none
  | node :: rest =>
    let met := node.dependencies.foldl (graph.meet limit node) { state with waiting := rest }
    some { met with tree := met.tree.add node }

def loopStart (root : Release) (dependencies : List Dependency) : LoopState where
  waiting := [{ release := root, depth := 0, dependencies, resolved := true }]
  met := [root]
  asked := [root]
  tree := { root }

def Loops (graph : DeclaredGraph) (limit : UInt64) : LoopState → LoopState → Prop :=
  Relation.ReflTransGen fun state next => graph.visit? limit state = some next

variable {graph : DeclaredGraph} {root release : Release} {limit : UInt64} {depth : Nat}
  {queue rest : List (Release × Nat)} {met : List Release} {state : LoopState}

/-! ### Meeting dependencies -/

theorem lookUp_ofNat (graph : DeclaredGraph) (release : Release) (depth : Nat) :
    graph.lookUp release (UInt64.ofNat depth) = graph.node release depth := by
  unfold lookUp node dependencies
  cases graph.dependencies? release with
  | none => rfl
  | some dependencies => rfl

theorem lookUp_named (release : Release) (depth : UInt64) :
    ∀ dependency ∈ (graph.lookUp release depth).dependencies, dependency.release ∈ graph.named := by
  unfold lookUp
  cases declared : graph.dependencies? release with
  | none => exact List.forall_mem_nil _
  | some dependencies => exact graph.isNamed release dependencies declared

@[simp] theorem release_lookUp (graph : DeclaredGraph) (release : Release) (depth : UInt64) :
    (graph.lookUp release depth).release = release := by
  unfold lookUp
  cases graph.dependencies? release <;> rfl

@[simp] theorem depth_lookUp (graph : DeclaredGraph) (release : Release) (depth : UInt64) :
    (graph.lookUp release depth).depth = depth := by
  unfold lookUp
  cases graph.dependencies? release <;> rfl

theorem foldl_meet_of_le {parent : ExpansionNode} (atLimit : limit ≤ parent.depth)
    (state : LoopState) (dependencies : List Dependency) :
    dependencies.foldl (graph.meet limit parent) state =
      { state with
        tree := { state.tree with
          truncated := state.tree.truncated ||
            dependencies.any fun dependency => decide (dependency.release ∉ state.met) } } := by
  induction dependencies using List.reverseRecOn with
  | nil => simp
  | append_singleton dependencies dependency ih =>
      rw [List.foldl_append, ih, List.any_append, List.foldl_cons, List.foldl_nil]
      unfold meet
      by_cases isMet : dependency.release ∈ state.met
      · simp [isMet]
      · simp [isMet, atLimit]

def firstMet (met : List Release) (dependencies : List Dependency) : List Release :=
  (dependencies.map Dependency.release).eraseDups.filter fun next => decide (next ∉ met)

theorem mem_firstMet {dependencies : List Dependency} : release ∈ firstMet met dependencies ↔
    release ∈ dependencies.map Dependency.release ∧ release ∉ met := by
  unfold firstMet
  rw [List.mem_filter, List.mem_eraseDups, decide_eq_true_iff]

theorem firstMet_append_singleton (met : List Release) (dependencies : List Dependency)
    (dependency : Dependency) :
    firstMet met (dependencies ++ [dependency]) =
      if dependency.release ∈ firstMet met dependencies ++ met then firstMet met dependencies
      else firstMet met dependencies ++ [dependency.release] := by
  unfold firstMet
  rw [List.map_append, List.map_singleton]
  by_cases known : dependency.release ∈ dependencies.map Dependency.release
  · rw [eraseDups_append_singleton_of_mem known, if_pos]
    rw [List.mem_append, List.mem_filter, List.mem_eraseDups, decide_eq_true_iff]
    by_cases isMet : dependency.release ∈ met
    · exact .inr isMet
    · exact .inl ⟨known, isMet⟩
  · rw [eraseDups_append_singleton_of_not_mem known, List.filter_append]
    by_cases isMet : dependency.release ∈ met
    · rw [if_pos (List.mem_append_right _ isMet)]
      simp [isMet]
    · rw [if_neg]
      · simp [isMet]
      · rw [List.mem_append, List.mem_filter, List.mem_eraseDups]
        rintro (first | old)
        · exact known first.1
        · exact isMet old

theorem foldl_meet_of_lt {parent : ExpansionNode} (above : parent.depth < limit)
    (state : LoopState) (dependencies : List Dependency) :
    dependencies.foldl (graph.meet limit parent) state =
      { state with
        waiting := state.waiting ++ (firstMet state.met dependencies).map fun next =>
          graph.lookUp next (parent.depth + 1)
        met := (firstMet state.met dependencies).reverse ++ state.met
        asked := state.asked ++ firstMet state.met dependencies } := by
  have notAtLimit : ¬ limit ≤ parent.depth := UInt64.not_le.2 above
  -- From the end: the last dependency is met in the state that the others have left.
  induction dependencies using List.reverseRecOn with
  | nil =>
      change state = { state with waiting := state.waiting ++ [], asked := state.asked ++ [] }
      rw [List.append_nil, List.append_nil]
  | append_singleton dependencies dependency ih =>
      rw [List.foldl_append, ih, List.foldl_cons, List.foldl_nil, firstMet_append_singleton]
      unfold meet
      dsimp only
      have sameMet : dependency.release ∈ (firstMet state.met dependencies).reverse ++ state.met ↔
          dependency.release ∈ firstMet state.met dependencies ++ state.met := by
        rw [List.mem_append, List.mem_append, List.mem_reverse]
      by_cases isMet : dependency.release ∈ firstMet state.met dependencies ++ state.met
      · rw [if_pos (sameMet.2 isMet), if_pos isMet]
      · rw [if_neg fun other => isMet (sameMet.1 other), if_neg isMet, if_neg notAtLimit,
          List.map_append, List.reverse_append, List.append_assoc, List.append_assoc]
        rfl

theorem firstMet_congr {met other : List Release} (same : ∀ release, release ∈ met ↔ release ∈ other)
    (dependencies : List Dependency) : firstMet met dependencies = firstMet other dependencies := by
  unfold firstMet
  simp only [same]

/-! ### The loop and the run of an expansion -/

/-- The state of the loop where a run has the given queue and met releases. -/
structure Follows (graph : DeclaredGraph) (queue : List (Release × Nat)) (met : List Release)
    (state : LoopState) : Prop where
  waiting : state.waiting = graph.queuedNodes queue
  asked : state.asked = state.tree.nodes.map (·.release) ++ queue.map Prod.fst
  sameMet : ∀ release, release ∈ state.met ↔ release ∈ met
  addedMet : ∀ node ∈ state.tree.nodes, node.release ∈ met
  notQueued : ∀ node ∈ state.tree.nodes, node.release ∉ queue.map Prod.fst

def appendRun (tree : Expansion) (run : List ExpansionNode × Bool) : Expansion :=
  { tree with nodes := tree.nodes ++ run.1, truncated := tree.truncated || run.2 }

theorem follows_loopStart {dependencies : List Dependency}
    (declared : graph.dependencies? root = some dependencies) :
    Follows graph [(root, 0)] [root] (loopStart root dependencies) where
  waiting := by
    unfold loopStart queuedNodes node DeclaredGraph.dependencies
    rw [List.map_singleton, declared]
    rfl
  asked := rfl
  sameMet _release := Iff.rfl
  addedMet := by
    intro node member
    cases member
  notQueued := by
    intro node member
    cases member

theorem Follows.absent (follows : Follows graph ((release, depth) :: rest) met state) :
    ∀ other ∈ state.tree.nodes, other.release ≠ (graph.node release depth).release := by
  intro other member same
  apply follows.notQueued other member
  rw [List.map_cons, List.mem_cons]
  exact .inl same

theorem Follows.waiting_cons (follows : Follows graph ((release, depth) :: rest) met state) :
    state.waiting = graph.node release depth :: graph.queuedNodes rest :=
  follows.waiting

theorem Follows.any_not_mem_met (follows : Follows graph queue met state) (release : Release) :
    ((graph.dependencies release).any fun dependency => decide (dependency.release ∉ state.met)) =
      !(graph.fresh met release).isEmpty := by
  rw [Bool.eq_iff_iff, List.any_eq_true, Bool.not_eq_true', List.isEmpty_eq_false_iff_exists_mem]
  constructor
  · rintro ⟨dependency, declared, unmet⟩
    rw [decide_eq_true_iff, follows.sameMet] at unmet
    exact ⟨dependency.release, mem_fresh.2 ⟨leads_iff.2 ⟨dependency, declared, rfl⟩, unmet⟩⟩
  · rintro ⟨next, isFresh⟩
    obtain ⟨leads, unmet⟩ := mem_fresh.1 isFresh
    obtain ⟨dependency, declared, rfl⟩ := leads_iff.1 leads
    refine ⟨dependency, declared, ?_⟩
    rw [decide_eq_true_iff, follows.sameMet]
    exact unmet

/-! ### A visit of the loop -/

def leaveState (graph : DeclaredGraph) (release : Release) (depth : Nat)
    (rest : List (Release × Nat)) (met : List Release) (state : LoopState) : LoopState where
  waiting := graph.queuedNodes rest
  met := state.met
  asked := state.asked
  tree := appendRun state.tree ([graph.node release depth], !(graph.fresh met release).isEmpty)

def expandState (graph : DeclaredGraph) (release : Release) (depth : Nat)
    (rest : List (Release × Nat)) (met : List Release) (state : LoopState) : LoopState where
  waiting := graph.queuedNodes (rest ++ (graph.fresh met release).map (·, depth + 1))
  met := (graph.fresh met release).reverse ++ state.met
  asked := state.asked ++ graph.fresh met release
  tree := appendRun state.tree ([graph.node release depth], false)

theorem Follows.visit?_of_le (follows : Follows graph ((release, depth) :: rest) met state)
    (isWord : (graph.node release depth).depth.toNat = depth) (atLimit : limit.toNat ≤ depth) :
    graph.visit? limit state = some (graph.leaveState release depth rest met state) := by
  have reached : limit ≤ (graph.node release depth).depth := by
    rw [UInt64.le_iff_toNat_le, isWord]
    exact atLimit
  unfold visit? leaveState
  rw [follows.waiting_cons]
  dsimp only
  rw [foldl_meet_of_le reached, Expansion.add_of_not_mem]
  · dsimp only
    rw [← follows.any_not_mem_met release]
    rfl
  · exact follows.absent

theorem Follows.visit?_of_lt (follows : Follows graph ((release, depth) :: rest) met state)
    (isWord : (graph.node release depth).depth.toNat = depth) (above : depth < limit.toNat) :
    graph.visit? limit state = some (graph.expandState release depth rest met state) := by
  have before : (graph.node release depth).depth < limit := by
    rw [UInt64.lt_iff_toNat_lt, isWord]
    exact above
  have next : (graph.node release depth).depth + 1 = UInt64.ofNat (depth + 1) :=
    (UInt64.ofNat_add depth 1).symm
  have sameFresh : firstMet state.met (graph.node release depth).dependencies =
      graph.fresh met release :=
    firstMet_congr follows.sameMet (graph.dependencies release)
  unfold visit? expandState queuedNodes
  rw [follows.waiting_cons]
  dsimp only
  rw [foldl_meet_of_lt before, Expansion.add_of_not_mem follows.absent]
  dsimp only
  rw [sameFresh, next, List.map_append, List.map_map]
  unfold appendRun
  rw [Bool.or_false]
  simp only [lookUp_ofNat]
  rfl

theorem Follows.leave (follows : Follows graph ((release, depth) :: rest) met state)
    (frontier : Frontier graph root limit.toNat ((release, depth) :: rest) met) :
    Follows graph rest met (graph.leaveState release depth rest met state) where
  waiting := rfl
  asked := by
    unfold leaveState appendRun
    dsimp only
    rw [follows.asked, List.map_append, List.map_cons, List.append_assoc]
    rfl
  sameMet := follows.sameMet
  addedMet := by
    intro node member
    rcases List.mem_append.1 member with old | new
    · exact follows.addedMet node old
    · rw [List.mem_singleton.1 new]
      exact frontier.queuedMet (release, depth) List.mem_cons_self
  notQueued := by
    intro node member queued
    rcases List.mem_append.1 member with old | new
    · exact follows.notQueued node old (List.mem_cons_of_mem _ queued)
    · rw [List.mem_singleton.1 new] at queued
      exact (List.nodup_cons.1 frontier.queuedOnce).1 queued

theorem Follows.expand (follows : Follows graph ((release, depth) :: rest) met state)
    (frontier : Frontier graph root limit.toNat ((release, depth) :: rest) met) :
    Follows graph (rest ++ (graph.fresh met release).map (·, depth + 1))
      (graph.fresh met release ++ met) (graph.expandState release depth rest met state) where
  waiting := rfl
  asked := by
    have opened : ((graph.fresh met release).map fun next => (next, depth + 1)).map Prod.fst =
        graph.fresh met release := by
      rw [List.map_map]
      exact List.map_id _
    have left : state.asked = _ := (follows.leave frontier).asked
    unfold expandState
    dsimp only
    rw [left, List.append_assoc, List.map_append, opened]
    rfl
  sameMet target := by
    unfold expandState
    rw [List.mem_append, List.mem_append, List.mem_reverse, follows.sameMet]
  addedMet node member := List.mem_append_right _ ((follows.leave frontier).addedMet node member)
  notQueued := by
    intro node member queued
    have left := follows.leave frontier
    rw [List.map_append, List.mem_append, List.map_map] at queued
    rcases queued with old | new
    · exact left.notQueued node member old
    · obtain ⟨next, isFresh, same⟩ := List.mem_map.1 new
      change next = node.release at same
      rw [same] at isFresh
      exact (mem_fresh.1 isFresh).2 (left.addedMet node member)

theorem Frontier.exists_loops (frontier : Frontier graph root limit.toNat queue met) :
    ∀ state, Follows graph queue met state →
      ∃ final, graph.Loops limit state final ∧ final.waiting = [] ∧
        final.asked = final.tree.nodes.map (·.release) ∧
        final.tree = appendRun state.tree (graph.expandQueue limit.toNat queue met) := by
  induction queue, met using expandQueue.induct graph limit.toNat with
  | case1 met =>
      intro state follows
      refine ⟨state, .refl, follows.waiting, follows.asked.trans (List.append_nil _), ?_⟩
      rw [expandQueue_nil]
      unfold appendRun
      rw [List.append_nil, Bool.or_false]
  | case2 met release depth rest fresh above _nodes _truncated _run ih =>
      intro state follows
      have isWord := graph.toNat_depth_node release
        (frontier.within (release, depth) List.mem_cons_self) limit.toNat_lt_size
      obtain ⟨final, loops, isEmpty, asked, sameTree⟩ :=
        ih (frontier.expand above) _ (follows.expand frontier)
      refine ⟨final, .head (follows.visit?_of_lt isWord above) loops, isEmpty, asked, ?_⟩
      rw [sameTree, expandQueue_of_lt graph release rest met above]
      unfold expandState appendRun
      rw [Bool.or_false, List.append_assoc]
      rfl
  | case3 met release depth rest below _nodes _truncated _run ih =>
      intro state follows
      have reached : limit.toNat ≤ depth := Nat.not_lt.1 below
      have isWord := graph.toNat_depth_node release
        (frontier.within (release, depth) List.mem_cons_self) limit.toNat_lt_size
      obtain ⟨final, loops, isEmpty, asked, sameTree⟩ :=
        ih (frontier.leave reached) _ (follows.leave frontier)
      refine ⟨final, .head (follows.visit?_of_le isWord reached) loops, isEmpty, asked, ?_⟩
      rw [sameTree, expandQueue_of_le graph release rest met reached]
      unfold leaveState appendRun
      rw [Bool.or_assoc, List.append_assoc]
      rfl

/-- From a root that is held, the loop ends with the expansion, and it has looked up the
releases of the nodes in their order. -/
theorem exists_loops_expand {dependencies : List Dependency}
    (declared : graph.dependencies? root = some dependencies) (limit : UInt64) :
    ∃ final, graph.Loops limit (loopStart root dependencies) final ∧ final.waiting = [] ∧
      final.asked = final.tree.nodes.map (·.release) ∧ final.tree = graph.expand root limit :=
  (frontier_initial graph root limit.toNat).exists_loops _ (follows_loopStart declared)

end DeclaredGraph

end ArtifactCatalog
