/-
Trees that are built by adding nodes, whatever the nodes declare. Such a tree has one node for a
release at most, so its links are the declarations of its nodes. A search in it ends after one
turn for each declared dependency and one more at most, and finds what its start leads to.
-/

import ArtifactCatalog.Proofs.Expansion.LoopBounds
import Mathlib.Data.List.Flatten

namespace ArtifactCatalog

namespace Expansion

def ofNodes (root : Release) (nodes : List ExpansionNode) : Expansion :=
  nodes.foldl Expansion.add { root }

/-- A node for the first release declares a dependency on the other. -/
def Declares (tree : Expansion) (release next : Release) : Prop :=
  ∃ node ∈ tree.nodes, node.release = release ∧
    ∃ dependency ∈ node.dependencies, dependency.release = next

def countDeclared (nodes : List ExpansionNode) : Nat :=
  (nodes.flatMap (·.dependencies)).length

variable {tree : Expansion} {start release next target : Release} {turns : Nat}

/-! ### One node for each release -/

def EachOnce (tree : Expansion) : Prop := (tree.nodes.map (·.release)).Nodup

theorem EachOnce.add (eachOnce : tree.EachOnce) (node : ExpansionNode) :
    (tree.add node).EachOnce := by
  by_cases present : ∃ other ∈ tree.nodes, other.release = node.release
  · obtain ⟨other, member, same⟩ := present
    have contained : tree.contains node.release = true :=
      List.any_eq_true.2 ⟨other, member, beq_iff_eq.2 same⟩
    unfold Expansion.add
    rw [if_pos contained]
    exact eachOnce
  · rw [add_of_not_mem fun other member same => present ⟨other, member, same⟩]
    unfold EachOnce
    rw [List.map_append, List.map_singleton]
    refine List.nodup_append.2 ⟨eachOnce, List.nodup_singleton _, ?_⟩
    intro other member release isNew same
    obtain ⟨isNode, atNode, rfl⟩ := List.mem_map.1 member
    exact present ⟨isNode, atNode, same.trans (List.mem_singleton.1 isNew)⟩

theorem eachOnce_ofNodes (root : Release) (nodes : List ExpansionNode) :
    (ofNodes root nodes).EachOnce := by
  have grows (tree : Expansion) (eachOnce : tree.EachOnce) :
      (nodes.foldl Expansion.add tree).EachOnce := by
    induction nodes generalizing tree with
    | nil => exact eachOnce
    | cons node nodes ih => exact ih _ (eachOnce.add node)
  exact grows { root } List.nodup_nil

/-- Where no release has a second node, looking a release up finds any node of it. -/
theorem EachOnce.node?_eq (eachOnce : tree.EachOnce) {node : ExpansionNode}
    (isNode : node ∈ tree.nodes) : tree.node? node.release = some node := by
  cases met : tree.node? node.release with
  | none =>
      exact absurd (beq_self_eq_true node.release) (List.find?_eq_none.1 met node isNode)
  | some other =>
      obtain ⟨isOther, same⟩ := mem_and_release_eq_of_node? met
      rw [List.inj_on_of_nodup_map eachOnce isOther isNode same]

theorem EachOnce.leads_iff_declares (eachOnce : tree.EachOnce) :
    tree.Leads release next ↔ tree.Declares release next := by
  refine ⟨exists_node_of_leads, ?_⟩
  rintro ⟨node, isNode, rfl, dependency, declared, same⟩
  unfold Leads successors
  rw [eachOnce.node?_eq isNode]
  exact List.mem_map.2 ⟨dependency, declared, same⟩

theorem mem_dependents_iff : release ∈ tree.dependents next ↔ tree.Declares release next := by
  unfold dependents Declares
  simp only [List.mem_map, List.mem_filter, List.any_eq_true, beq_iff_eq]
  constructor
  · rintro ⟨node, ⟨isNode, declares⟩, same⟩
    exact ⟨node, isNode, same, declares⟩
  · rintro ⟨node, isNode, same, declares⟩
    exact ⟨node, ⟨isNode, declares⟩, same⟩

/-! ### Turns of a search -/

structure SearchState where
  pending : List Release
  visited : List Release := []
  found : List Release := []

def turn? (tree : Expansion) (start : Release) (state : SearchState) : Option SearchState :=
  match state.pending with
  | [] => none
  | release :: rest =>
    if release ∈ state.visited then some { state with pending := rest }
    else some {
      pending := tree.successors release ++ rest
      visited := release :: state.visited
      found := state.found ++ (tree.successors release).filter (· != start) }

def Turns (tree : Expansion) (start : Release) (state next : SearchState) : Prop :=
  tree.turn? start state = some next

def Comes (tree : Expansion) (start : Release) : Nat → SearchState → Prop :=
  Walk (tree.Turns start) { pending := [start] }

/-- What is pending, and the dependencies that a visit may still add to it. -/
def SearchState.measure (tree : Expansion) (state : SearchState) : Nat :=
  state.pending.length + countDeclared (tree.unvisited state.visited)

theorem countDeclared_filter_le (keeps : ExpansionNode → Bool) (nodes : List ExpansionNode) :
    countDeclared (nodes.filter keeps) ≤ countDeclared nodes :=
  (List.filter_sublist.flatMap _).length_le

theorem countDeclared_filter_add_le {nodes : List ExpansionNode} {keeps : ExpansionNode → Bool}
    {node : ExpansionNode} (isNode : node ∈ nodes) (dropped : keeps node = false) :
    node.dependencies.length + countDeclared (nodes.filter keeps) ≤ countDeclared nodes := by
  obtain ⟨front, back, rfl⟩ := List.append_of_mem isNode
  have inFront := countDeclared_filter_le keeps front
  have behind := countDeclared_filter_le keeps back
  unfold countDeclared at *
  rw [List.filter_append, List.filter_cons_of_neg (by rw [dropped]; exact Bool.false_ne_true)]
  simp only [List.flatMap_append, List.flatMap_cons, List.length_append]
  omega

/-- A visit uses up the dependencies that it makes pending. -/
theorem length_successors_add_le {visited : List Release} (unvisited : release ∉ visited) :
    (tree.successors release).length + countDeclared (tree.unvisited (release :: visited)) ≤
      countDeclared (tree.unvisited visited) := by
  rw [unvisited_cons]
  unfold successors
  cases met : tree.node? release with
  | none =>
      rw [List.length_nil, Nat.zero_add]
      exact countDeclared_filter_le _ _
  | some node =>
      obtain ⟨isNode, same⟩ := mem_and_release_eq_of_node? met
      rw [List.length_map]
      apply countDeclared_filter_add_le
      · exact List.mem_filter.2 ⟨isNode, decide_eq_true (by rw [same]; exact unvisited)⟩
      · exact decide_eq_false (not_not_intro same)

theorem Turns.measure_lt {state next : SearchState} (turn : tree.Turns start state next) :
    next.measure tree < state.measure tree := by
  unfold Turns turn? at turn
  unfold SearchState.measure
  split at turn
  · cases turn
  · next release rest isPending =>
    rw [isPending, List.length_cons]
    split at turn
    · cases Option.some.inj turn
      exact Nat.add_lt_add_right (Nat.lt_succ_self _) _
    · next unvisited =>
      have used : _ ≤ countDeclared (tree.unvisited _) := length_successors_add_le unvisited
      cases Option.some.inj turn
      dsimp only
      rw [List.length_append]
      omega

theorem Comes.add_measure_le {state : SearchState} (comes : tree.Comes start turns state) :
    turns + state.measure tree ≤ 1 + countDeclared tree.nodes := by
  induction comes with
  | start =>
      have all : tree.unvisited [] = tree.nodes :=
        List.filter_eq_self.2 fun _ _ => decide_eq_true List.not_mem_nil
      apply Nat.le_of_eq
      unfold SearchState.measure
      rw [all, List.length_singleton, Nat.zero_add]
  | link _comes turn ih =>
      have less := turn.measure_lt
      omega

theorem exists_turns_search (tree : Expansion) (start : Release)
    (pending visited found : List Release) :
    ∃ final, Relation.ReflTransGen (tree.Turns start) { pending, visited, found } final ∧
      final.pending = [] ∧ final.found = tree.search start pending visited found := by
  induction pending, visited, found using search.induct tree start with
  | case1 visited found =>
      exact ⟨_, .refl, rfl, (search_nil tree start visited found).symm⟩
  | case2 visited found release rest unvisited node met next ih =>
      have sameNext : tree.successors release = next := by
        unfold successors
        rw [met]
      obtain ⟨final, turns, isEmpty, sameFound⟩ := ih
      refine ⟨final, .head ?_ turns, isEmpty, ?_⟩
      · unfold Turns turn?
        dsimp only
        rw [if_neg unvisited, sameNext]
      · rw [search_of_not_mem tree start rest found unvisited, sameNext]
        exact sameFound
  | case3 visited found release rest unvisited met ih =>
      have noNext : tree.successors release = [] := by
        unfold successors
        rw [met]
      obtain ⟨final, turns, isEmpty, sameFound⟩ := ih
      refine ⟨final, .head ?_ turns, isEmpty, ?_⟩
      · unfold Turns turn?
        dsimp only
        rw [if_neg unvisited, noNext, List.filter_nil, List.append_nil]
        rfl
      · rw [search_of_not_mem tree start rest found unvisited, noNext, List.filter_nil,
          List.append_nil]
        exact sameFound
  | case4 visited found release rest isVisited ih =>
      have again := Decidable.not_not.1 isVisited
      obtain ⟨final, turns, isEmpty, sameFound⟩ := ih
      refine ⟨final, .head ?_ turns, isEmpty, ?_⟩
      · unfold Turns turn?
        dsimp only
        rw [if_pos again]
      · rw [search_of_mem tree start rest found again]
        exact sameFound

/-! ### What a built tree answers -/

/-- A search ends, and the answers about a tree are those of the declarations of its nodes. -/
structure AnswersDeclared (tree : Expansion) : Prop where
  eachOnce : tree.EachOnce
  ends : ∀ start, ∃ turns final, tree.Comes start turns final ∧ final.pending = [] ∧
    tree.reachable start = final.found.eraseDups
  bounded : ∀ start turns state, tree.Comes start turns state →
    turns ≤ 1 + countDeclared tree.nodes
  reachable_iff : ∀ start target, target ∈ tree.reachable start ↔
    target ≠ start ∧ Relation.TransGen tree.Declares start target
  dependents_iff : ∀ release next, release ∈ tree.dependents next ↔ tree.Declares release next
  dependentsReach : ∀ release next, release ∈ tree.dependents next → release ≠ next →
    next ∈ tree.reachable release

/-- In a tree built of any nodes, whatever their declarations lead to, a search ends and finds
what one or more declarations lead to, and the dependents of a release are those that declare
a dependency on it. -/
theorem ofNodes_answersDeclared (root : Release) (nodes : List ExpansionNode) :
    (ofNodes root nodes).AnswersDeclared := by
  have eachOnce := eachOnce_ofNodes root nodes
  have sameLinks : (ofNodes root nodes).Leads = (ofNodes root nodes).Declares := by
    funext release next
    exact propext eachOnce.leads_iff_declares
  have reachable_iff (start target : Release) :
      target ∈ (ofNodes root nodes).reachable start ↔
        target ≠ start ∧ Relation.TransGen (ofNodes root nodes).Declares start target := by
    rw [← sameLinks]
    exact mem_reachable_iff
  refine ⟨eachOnce, ?_, ?_, reachable_iff, fun _ _ => mem_dependents_iff, ?_⟩
  · intro start
    obtain ⟨final, run, isEmpty, sameFound⟩ :=
      exists_turns_search (ofNodes root nodes) start [start] [] []
    obtain ⟨turns, comes⟩ := exists_walk_of_reflTransGen run
    refine ⟨turns, final, comes, isEmpty, ?_⟩
    rw [sameFound]
    rfl
  · intro start turns state comes
    exact Nat.le_trans (Nat.le_add_right turns _) comes.add_measure_le
  · intro release next isDependent differs
    exact (reachable_iff release next).2
      ⟨differs.symm, .single (mem_dependents_iff.1 isDependent)⟩

end Expansion

end ArtifactCatalog
