/-
The expansion of a release: the releases that its declared dependencies lead
to, each with its depth. Every release has at most one node in an expansion
that was built by adding nodes.
-/

import ArtifactCatalog.Dependency
import ArtifactCatalog.Number.Text

namespace ArtifactCatalog

/-- One expanded release. Its depth is its distance from the root; a release
without metadata has no dependencies and is not resolved. -/
structure ExpansionNode where
  release : Release
  depth : UInt64
  dependencies : List Dependency
  resolved : Bool
deriving DecidableEq, Repr

structure Expansion where
  root : Release
  nodes : List ExpansionNode := []
  truncated : Bool := false
deriving DecidableEq, Repr

namespace Expansion

def node? (tree : Expansion) (release : Release) : Option ExpansionNode :=
  tree.nodes.find? fun node => node.release == release

def contains (tree : Expansion) (release : Release) : Bool :=
  tree.nodes.any fun node => node.release == release

/-- Adds a node at the end, unless its release has one. -/
def add (tree : Expansion) (node : ExpansionNode) : Expansion :=
  if tree.contains node.release then tree else { tree with nodes := tree.nodes ++ [node] }

def successors (tree : Expansion) (release : Release) : List Release :=
  match tree.node? release with
  | some node => node.dependencies.map Dependency.release
  | none => []

def dependents (tree : Expansion) (release : Release) : List Release :=
  (tree.nodes.filter fun node => node.dependencies.any (·.release == release)).map (·.release)

def label (tree : Expansion) : String :=
  "DependencyTree(" ++ tree.root.label ++ ", " ++
    Number.natText tree.nodes.length ++ " nodes)"

/-! ### Reachable releases -/

def unvisited (tree : Expansion) (visited : List Release) : List ExpansionNode :=
  tree.nodes.filter fun node => decide (node.release ∉ visited)

theorem unvisited_cons (tree : Expansion) (visited : List Release) (release : Release) :
    tree.unvisited (release :: visited) =
      (tree.unvisited visited).filter fun node => decide (node.release ≠ release) := by
  unfold unvisited
  rw [List.filter_filter]
  congr 1
  funext node
  simp [List.mem_cons, not_or]

theorem length_unvisited_le (tree : Expansion) (visited : List Release) (release : Release) :
    (tree.unvisited (release :: visited)).length ≤ (tree.unvisited visited).length := by
  rw [unvisited_cons]
  exact List.length_filter_le ..

theorem length_unvisited_lt (tree : Expansion) {visited : List Release} {release : Release}
    {node : ExpansionNode} (found : tree.node? release = some node)
    (fresh : release ∉ visited) :
    (tree.unvisited (release :: visited)).length < (tree.unvisited visited).length := by
  have isNode : node ∈ tree.nodes := List.mem_of_find?_eq_some found
  have sameRelease : node.release = release := by simpa using List.find?_some found
  rw [unvisited_cons]
  apply List.length_filter_lt_length_iff_exists.2
  exact ⟨node, by simp [unvisited, isNode, sameRelease, fresh], by simp [sameRelease]⟩

/-- Visits the pending releases and all that they lead to, adding to `found`
the successors other than `start`. Each step visits a new node or shortens the
pending list. -/
def search (tree : Expansion) (start : Release) (pending visited found : List Release) :
    List Release :=
  match pending with
  | [] => found
  | release :: rest =>
    if _fresh : release ∉ visited then
      match _met : tree.node? release with
      | some node =>
        let next := node.dependencies.map Dependency.release
        search tree start (next ++ rest) (release :: visited)
          (found ++ next.filter (· != start))
      | none => search tree start rest (release :: visited) found
    else search tree start rest visited found
termination_by ((tree.unvisited visited).length, pending.length)
decreasing_by
  · exact Prod.Lex.left _ _ (length_unvisited_lt tree _met _fresh)
  · rcases Nat.lt_or_eq_of_le (length_unvisited_le tree visited release) with fewer | same
    · exact Prod.Lex.left _ _ fewer
    · rw [same]; exact Prod.Lex.right _ (by simp)
  · exact Prod.Lex.right _ (by simp)

def reachable (tree : Expansion) (start : Release) : List Release :=
  (tree.search start [start] [] []).eraseDups

end Expansion

instance : JsonForm ExpansionNode where
  write node := .object <|
    Json.field "key" node.release ++
    Json.field "depth" node.depth ++
    Json.field "dependencies" node.dependencies ++
    Json.field "resolved" node.resolved
  read? := Json.readRecord do
    let release ← FieldReader.required "key"
    let depth ← FieldReader.required "depth"
    let dependencies ← FieldReader.required "dependencies"
    let resolved ← FieldReader.required "resolved"
    return { release, depth, dependencies, resolved }

instance : JsonForm Expansion where
  write tree := .object <|
    Json.field "root" tree.root ++
    Json.field "nodes" tree.nodes ++
    Json.field "truncated" tree.truncated
  read? := Json.readRecord do
    let root ← FieldReader.required "root"
    let nodes ← FieldReader.required "nodes"
    let truncated ← FieldReader.required "truncated"
    return { root, nodes, truncated }

end ArtifactCatalog
