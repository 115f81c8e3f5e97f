/-
Expansions of one root with different limits. Down to the smaller limit both runs make the
same visits, so the nodes of the shallow expansion begin those of the deep one, and an
expansion that leaves nothing out stays as it is when its limit grows.
-/

import ArtifactCatalog.Proofs.Expansion.Truncation

namespace ArtifactCatalog

namespace DeclaredGraph

variable {graph : DeclaredGraph} {root release : Release} {limit further depth : Nat}
  {queue rest : List (Release × Nat)} {met : List Release}

/-- The queue is visited in its order, before anything that is met on the way. -/
theorem isPrefix_queuedNodes (graph : DeclaredGraph) (limit : Nat) (queue : List (Release × Nat))
    (met : List Release) :
    graph.queuedNodes queue <+: (graph.expandQueue limit queue met).1 := by
  induction queue, met using expandQueue.induct graph limit with
  | case1 met => exact List.nil_prefix
  | case2 met release depth rest fresh above _nodes _truncated _run ih =>
      rw [expandQueue_of_lt graph release rest met above]
      refine List.cons_prefix_cons.2 ⟨rfl, List.IsPrefix.trans ?_ ih⟩
      unfold queuedNodes
      rw [List.map_append]
      exact List.prefix_append _ _
  | case3 met release depth rest below _nodes _truncated _run ih =>
      rw [expandQueue_of_le graph release rest met (Nat.not_lt.1 below)]
      exact List.cons_prefix_cons.2 ⟨rfl, ih⟩

/-- When nothing is left to be met, the limit does not matter. -/
theorem expandQueue_of_leavesOut_eq_false (graph : DeclaredGraph) (limit : Nat)
    (nothing : graph.leavesOut queue met = false) :
    graph.expandQueue limit queue met = (graph.queuedNodes queue, false) := by
  induction queue with
  | nil => exact graph.expandQueue_nil limit met
  | cons entry rest ih =>
      obtain ⟨release, depth⟩ := entry
      unfold leavesOut at nothing
      rw [List.any_cons, Bool.or_eq_false_iff, Bool.not_eq_false', List.isEmpty_iff] at nothing
      obtain ⟨noFresh, nothingLater⟩ := nothing
      dsimp only at noFresh
      rcases Nat.lt_or_ge depth limit with above | atLimit
      · rw [expandQueue_of_lt graph release rest met above, noFresh, List.map_nil,
          List.append_nil, List.nil_append, ih nothingLater]
        rfl
      · rw [expandQueue_of_le graph release rest met atLimit, noFresh, ih nothingLater]
        rfl

/-- A run begins with the visits of the other, and is the same when that leaves nothing out. -/
structure Prolongs (deep shallow : List ExpansionNode × Bool) : Prop where
  starts : shallow.1 <+: deep.1
  whole : shallow.2 = false → deep = shallow

theorem Prolongs.cons {deep shallow : List ExpansionNode × Bool} (prolongs : Prolongs deep shallow)
    (node : ExpansionNode) :
    Prolongs (deep.map (node :: ·) id) (shallow.map (node :: ·) id) where
  starts := List.cons_prefix_cons.2 ⟨rfl, prolongs.starts⟩
  whole complete := congrArg (Prod.map (node :: ·) id) (prolongs.whole complete)

/-- The shallow run is at its limit and empties its queue, which the deep run still visits. -/
theorem prolongs_atLimit (graph : DeclaredGraph) (further : Nat) (met : List Release)
    (atLimit : ∀ entry ∈ queue, limit ≤ entry.2) :
    Prolongs (graph.expandQueue further queue met) (graph.expandQueue limit queue met) := by
  rw [expandQueue_of_forall_le graph met atLimit]
  refine ⟨isPrefix_queuedNodes graph further queue met, ?_⟩
  intro nothing
  rw [expandQueue_of_leavesOut_eq_false graph further nothing]
  exact Prod.ext rfl nothing.symm

theorem prolongs_expandQueue (frontier : Frontier graph root limit queue met)
    (deeper : limit ≤ further) :
    Prolongs (graph.expandQueue further queue met) (graph.expandQueue limit queue met) := by
  induction queue, met using expandQueue.induct graph limit with
  | case1 met =>
      apply prolongs_atLimit
      intro entry member
      cases member
  | case2 met release depth rest fresh above _nodes _truncated _run ih =>
      rw [expandQueue_of_lt graph release rest met above,
        expandQueue_of_lt graph release rest met (Nat.lt_of_lt_of_le above deeper)]
      exact (ih (frontier.expand above)).cons (graph.node release depth)
  | case3 met release depth rest below _nodes _truncated _run _ih =>
      -- The runs part here, but the shallow one only empties the queue that both have.
      exact prolongs_atLimit graph further met
        (frontier.forall_le_of_head (Nat.not_lt.1 below))

end DeclaredGraph

/-! ### Expansions with a greater limit -/

/-- The expansion begins with the nodes of the shallow one, each as it stands there, and is
the same expansion when that is not truncated. -/
structure Expansion.Deepens (deep shallow : Expansion) : Prop where
  starts : shallow.nodes <+: deep.nodes
  whole : shallow.truncated = false → deep = shallow

theorem DeclaredGraph.deepens_expand (graph : DeclaredGraph) (root : Release)
    {limit further : UInt64} (deeper : limit ≤ further) :
    (graph.expand root further).Deepens (graph.expand root limit) := by
  have prolongs := prolongs_expandQueue (frontier_initial graph root limit.toNat)
    (UInt64.le_iff_toNat_le.1 deeper)
  refine ⟨prolongs.starts, fun complete => ?_⟩
  unfold expand
  rw [prolongs.whole complete]

namespace QuerySources

variable {sources : QuerySources} {observed : List String}

/-- With a greater limit a caller gets the same nodes first, and nothing else when the
smaller limit has left nothing out. -/
theorem expansion_deepens (sees : sources.observed = .ok observed) {root : Release}
    (held : ∃ repository ∈ observed, ∃ metadata, sources.registry.Holds repository root metadata)
    {limit further : UInt64} (deeper : limit ≤ further) :
    ∃ shallow deep, sources.expansion root limit = .ok shallow ∧
      sources.expansion root further = .ok deep ∧ deep.Deepens shallow :=
  ⟨_, _, expansion_of_holds sees held limit, expansion_of_holds sees held further,
    DeclaredGraph.deepens_expand _ root deeper⟩

theorem expansion_deepens_cyclicRegistry :
    (0 : UInt64) ≤ 1 ∧
      ∃ shallow deep,
        (ofStores ["main"] {} cyclicRegistry {}).expansion appRelease 0 = .ok shallow ∧
          (ofStores ["main"] {} cyclicRegistry {}).expansion appRelease 1 = .ok deep ∧
            deep.Deepens shallow :=
  ⟨by decide, expansion_deepens rfl cyclicRegistry_holds_app (by decide)⟩

end QuerySources

end ArtifactCatalog
