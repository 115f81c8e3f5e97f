/-
The graph of declared dependencies that a caller sees, and its expansion from a
root. The expansion visits releases level by level, each once; dependencies
below the greatest depth are left out and mark the expansion as truncated.
-/

import ArtifactCatalog.Expansion
import ArtifactCatalog.Query.Resolution

namespace ArtifactCatalog

/-- Declared dependencies of releases. Only finitely many releases are named as
dependencies, and `named` lists them all. -/
structure DeclaredGraph where
  dependencies? : Release → Option (List Dependency)
  named : List Release
  isNamed : ∀ release dependencies, dependencies? release = some dependencies →
    ∀ dependency ∈ dependencies, dependency.release ∈ named

namespace DeclaredGraph

def ofRegistry (registry : Registry) (repositories : List String) : DeclaredGraph where
  dependencies? := registry.dependencies? repositories
  named := registry.namedReleases
  isNamed _ _ declared _ member := Registry.release_mem_namedReleases declared member

def dependencies (graph : DeclaredGraph) (release : Release) : List Dependency :=
  (graph.dependencies? release).getD []

def successors (graph : DeclaredGraph) (release : Release) : List Release :=
  ((graph.dependencies release).map Dependency.release).eraseDups

def fresh (graph : DeclaredGraph) (met : List Release) (release : Release) : List Release :=
  (graph.successors release).filter fun next => decide (next ∉ met)

def unmet (graph : DeclaredGraph) (met : List Release) : List Release :=
  graph.named.filter fun release => decide (release ∉ met)

def node (graph : DeclaredGraph) (release : Release) (depth : Nat) : ExpansionNode where
  release := release
  depth := UInt64.ofNat depth
  dependencies := graph.dependencies release
  resolved := (graph.dependencies? release).isSome

theorem mem_named_of_mem_successors {graph : DeclaredGraph} {release next : Release}
    (member : next ∈ graph.successors release) : next ∈ graph.named := by
  unfold successors dependencies at member
  rw [List.mem_eraseDups, List.mem_map] at member
  obtain ⟨dependency, declared, rfl⟩ := member
  cases found : graph.dependencies? release with
  | none => simp [found] at declared
  | some dependencies =>
    simp only [found, Option.getD_some] at declared
    exact graph.isNamed release dependencies found dependency declared

theorem unmet_append (graph : DeclaredGraph) (fresh met : List Release) :
    graph.unmet (fresh ++ met) =
      (graph.unmet met).filter fun release => decide (release ∉ fresh) := by
  unfold unmet
  rw [List.filter_filter]
  congr 1
  funext release
  simp [List.mem_append, not_or]

theorem length_unmet_fresh_lt (graph : DeclaredGraph) {met : List Release} {release : Release}
    (nonempty : graph.fresh met release ≠ []) :
    (graph.unmet (graph.fresh met release ++ met)).length < (graph.unmet met).length := by
  obtain ⟨next, isFresh⟩ := List.exists_mem_of_ne_nil _ nonempty
  have parts := List.mem_filter.1 isFresh
  have isUnmet : next ∈ graph.unmet met :=
    List.mem_filter.2 ⟨mem_named_of_mem_successors parts.1, parts.2⟩
  rw [unmet_append]
  exact List.length_filter_lt_length_iff_exists.2 ⟨next, isUnmet, by simp [isFresh]⟩

/-- Expands the releases of a queue, which have the depths beside them. Every
step meets a named release for the first time or shortens the queue. The answer
also says whether a release below the limit was left out. -/
def expandQueue (graph : DeclaredGraph) (limit : Nat) (queue : List (Release × Nat))
    (met : List Release) : List ExpansionNode × Bool :=
  match queue with
  | [] => ([], false)
  | (release, depth) :: rest =>
    let fresh := graph.fresh met release
    if depth < limit then
      let (nodes, truncated) :=
        expandQueue graph limit (rest ++ fresh.map (·, depth + 1)) (fresh ++ met)
      (graph.node release depth :: nodes, truncated)
    else
      let (nodes, truncated) := expandQueue graph limit rest met
      (graph.node release depth :: nodes, !fresh.isEmpty || truncated)
termination_by ((graph.unmet met).length, queue.length)
decreasing_by
  · by_cases nonempty : graph.fresh met release = []
    · rw [nonempty]; exact Prod.Lex.right _ (by simp)
    · exact Prod.Lex.left _ _ (length_unmet_fresh_lt graph nonempty)
  · exact Prod.Lex.right _ (by simp)

def expand (graph : DeclaredGraph) (root : Release) (limit : UInt64) : Expansion :=
  let (nodes, truncated) := graph.expandQueue limit.toNat [(root, 0)] [root]
  { root, nodes, truncated }

end DeclaredGraph

end ArtifactCatalog
