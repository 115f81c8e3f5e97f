/-
The releases that a tree of nodes leads to from one of its releases, on paths of one
dependency or more. The search for them ends with all that its visited releases lead to,
whatever cycles there are among the nodes.
-/

import ArtifactCatalog.Expansion
import Mathlib.Logic.Relation

namespace ArtifactCatalog

namespace Expansion

variable {tree : Expansion} {start release next target : Release}
  {pending rest visited found : List Release}

/-! ### Links of a tree -/

def Leads (tree : Expansion) (release next : Release) : Prop :=
  next ∈ tree.successors release

theorem mem_and_release_eq_of_node? {node : ExpansionNode}
    (met : tree.node? release = some node) : node ∈ tree.nodes ∧ node.release = release := by
  have isFound := List.find?_some met
  exact ⟨List.mem_of_find?_eq_some met, beq_iff_eq.1 isFound⟩

theorem exists_node_of_leads (leads : tree.Leads release next) :
    ∃ node ∈ tree.nodes, node.release = release ∧
      ∃ dependency ∈ node.dependencies, dependency.release = next := by
  unfold Leads successors at leads
  cases met : tree.node? release with
  | none =>
      rw [met] at leads
      cases leads
  | some node =>
      rw [met] at leads
      obtain ⟨isNode, sameRelease⟩ := mem_and_release_eq_of_node? met
      obtain ⟨dependency, declared, same⟩ := List.mem_map.1 leads
      exact ⟨node, isNode, sameRelease, dependency, declared, same⟩

/-! ### One visit of a search -/

theorem search_nil (tree : Expansion) (start : Release) (visited found : List Release) :
    tree.search start [] visited found = found := by
  rw [search]

theorem search_of_mem (tree : Expansion) (start : Release) (rest found : List Release)
    (isVisited : release ∈ visited) :
    tree.search start (release :: rest) visited found = tree.search start rest visited found := by
  rw [search, dif_neg (not_not_intro isVisited)]

theorem search_of_not_mem (tree : Expansion) (start : Release) (rest found : List Release)
    (unvisited : release ∉ visited) :
    tree.search start (release :: rest) visited found =
      tree.search start (tree.successors release ++ rest) (release :: visited)
        (found ++ (tree.successors release).filter (· != start)) := by
  rw [search, dif_pos unvisited]
  unfold successors
  cases met : tree.node? release with
  | none => simp
  | some node => simp

/-! ### What a search has seen -/

/-- A search between two visits: what it has found is what its visited releases lead to, and
what these lead to is visited or pending. -/
structure Searched (tree : Expansion) (start : Release) (pending visited found : List Release) :
    Prop where
  startSeen : start ∈ visited ∨ start ∈ pending
  pendingReached : ∀ release ∈ pending, Relation.ReflTransGen tree.Leads start release
  foundReached : ∀ release ∈ found, release ≠ start ∧ Relation.TransGen tree.Leads start release
  foundAll : ∀ release ∈ visited, ∀ next, tree.Leads release next → next ≠ start → next ∈ found
  closed : ∀ release ∈ visited, ∀ next, tree.Leads release next →
    next ∈ visited ∨ next ∈ pending

theorem searched_initial (tree : Expansion) (start : Release) :
    Searched tree start [start] [] [] where
  startSeen := .inr (List.mem_singleton_self start)
  pendingReached := by
    intro release member
    cases List.mem_singleton.1 member
    exact .refl
  foundReached := by
    intro release member
    cases member
  foundAll := by
    intro release member
    cases member
  closed := by
    intro release member
    cases member

theorem seen_of_skip (isVisited : release ∈ visited)
    (seen : next ∈ visited ∨ next ∈ release :: rest) : next ∈ visited ∨ next ∈ rest := by
  rcases seen with old | isPending
  · exact .inl old
  · rcases List.mem_cons.1 isPending with atHead | later
    · rw [atHead]
      exact .inl isVisited
    · exact .inr later

theorem seen_of_visit (others : List Release) (seen : next ∈ visited ∨ next ∈ release :: rest) :
    next ∈ release :: visited ∨ next ∈ others ++ rest := by
  rcases seen with old | isPending
  · exact .inl (List.mem_cons_of_mem _ old)
  · rcases List.mem_cons.1 isPending with atHead | later
    · rw [atHead]
      exact .inl List.mem_cons_self
    · exact .inr (List.mem_append_right _ later)

theorem Searched.skip (searched : Searched tree start (release :: rest) visited found)
    (isVisited : release ∈ visited) : Searched tree start rest visited found where
  startSeen := seen_of_skip isVisited searched.startSeen
  pendingReached other member := searched.pendingReached other (List.mem_cons_of_mem _ member)
  foundReached := searched.foundReached
  foundAll := searched.foundAll
  closed other member next leads := seen_of_skip isVisited (searched.closed other member next leads)

theorem Searched.visit (searched : Searched tree start (release :: rest) visited found) :
    Searched tree start (tree.successors release ++ rest) (release :: visited)
      (found ++ (tree.successors release).filter (· != start)) where
  startSeen := seen_of_visit _ searched.startSeen
  pendingReached := by
    intro other member
    rcases List.mem_append.1 member with isNext | later
    · exact (searched.pendingReached release List.mem_cons_self).tail isNext
    · exact searched.pendingReached other (List.mem_cons_of_mem _ later)
  foundReached := by
    intro other member
    rcases List.mem_append.1 member with old | new
    · exact searched.foundReached other old
    · obtain ⟨isNext, differs⟩ := List.mem_filter.1 new
      exact ⟨bne_iff_ne.1 differs,
        .tail' (searched.pendingReached release List.mem_cons_self) isNext⟩
  foundAll := by
    intro other member next leads differs
    rcases List.mem_cons.1 member with atHead | old
    · rw [atHead] at leads
      exact List.mem_append_right _ (List.mem_filter.2 ⟨leads, bne_iff_ne.2 differs⟩)
    · exact List.mem_append_left _ (searched.foundAll other old next leads differs)
  closed := by
    intro other member next leads
    rcases List.mem_cons.1 member with atHead | old
    · rw [atHead] at leads
      exact .inr (List.mem_append_left _ leads)
    · exact seen_of_visit _ (searched.closed other old next leads)

theorem Searched.mem_found_iff (searched : Searched tree start [] visited found) :
    target ∈ found ↔ target ≠ start ∧ Relation.TransGen tree.Leads start target := by
  refine ⟨searched.foundReached target, ?_⟩
  rintro ⟨differs, reached⟩
  have seen (release : Release) (path : Relation.ReflTransGen tree.Leads start release) :
      release ∈ visited := by
    induction path with
    | refl => exact searched.startSeen.resolve_right List.not_mem_nil
    | tail _ leads ih =>
        exact (searched.closed _ ih _ leads).resolve_right List.not_mem_nil
  -- The last link of the path begins at a visited release, where it was found.
  obtain ⟨last, path, leads⟩ := Relation.TransGen.tail'_iff.1 reached
  exact searched.foundAll last (seen last path) target leads differs

theorem Searched.mem_search_iff (searched : Searched tree start pending visited found) :
    target ∈ tree.search start pending visited found ↔
      target ≠ start ∧ Relation.TransGen tree.Leads start target := by
  induction pending, visited, found using search.induct tree start with
  | case1 visited found =>
      rw [search_nil]
      exact searched.mem_found_iff
  | case2 visited found release rest unvisited node met next ih =>
      have sameNext : tree.successors release = next := by
        unfold successors
        rw [met]
      have later := searched.visit
      rw [search_of_not_mem tree start rest found unvisited]
      rw [sameNext] at later ⊢
      exact ih later
  | case3 visited found release rest unvisited met ih =>
      have noNext : tree.successors release = [] := by
        unfold successors
        rw [met]
      have later := searched.visit
      rw [search_of_not_mem tree start rest found unvisited]
      rw [noNext, List.filter_nil, List.append_nil] at later ⊢
      exact ih later
  | case4 visited found release rest isVisited ih =>
      have again := Decidable.not_not.1 isVisited
      rw [search_of_mem tree start rest found again]
      exact ih (searched.skip again)

/-- What is reachable from a release is all that a path of one or more dependencies leads to,
without the release itself. -/
theorem mem_reachable_iff :
    target ∈ tree.reachable start ↔
      target ≠ start ∧ Relation.TransGen tree.Leads start target := by
  unfold reachable
  rw [List.mem_eraseDups]
  exact (searched_initial tree start).mem_search_iff

end Expansion

end ArtifactCatalog
