/-
The queue of an expansion. It holds the releases that were met and not yet
visited, nearest first, each with its distance from the root, and their depths
span two levels at most. One visit keeps this, above the limit and at it.
-/

import ArtifactCatalog.Proofs.FirstOccurrence
import ArtifactCatalog.Query.DeclaredGraph
import Mathlib.Data.List.Nodup

namespace ArtifactCatalog

/-! ### Distance -/

/-- Walks of so many links from the root. -/
inductive Walk {α : Type} (links : α → α → Prop) (root : α) : Nat → α → Prop
  | start : Walk links root 0 root
  | link {length : Nat} {last next : α} (walk : Walk links root length last)
      (leads : links last next) : Walk links root (length + 1) next

structure IsDistance {α : Type} (links : α → α → Prop) (root target : α)
    (distance : Nat) : Prop where
  walk : Walk links root distance target
  shortest : ∀ length, Walk links root length target → distance ≤ length

theorem isDistance_root {α : Type} (links : α → α → Prop) (root : α) :
    IsDistance links root root 0 :=
  ⟨.start, fun length _walk => Nat.zero_le length⟩

theorem IsDistance.unique {α : Type} {links : α → α → Prop} {root target : α}
    {distance other : Nat} (first : IsDistance links root target distance)
    (second : IsDistance links root target other) : distance = other :=
  Nat.le_antisymm (first.shortest other second.walk) (second.shortest distance first.walk)

namespace DeclaredGraph

def Leads (graph : DeclaredGraph) (release next : Release) : Prop :=
  next ∈ graph.successors release

theorem leads_iff {graph : DeclaredGraph} {release next : Release} :
    graph.Leads release next ↔
      ∃ dependency ∈ graph.dependencies release, dependency.release = next := by
  unfold Leads successors
  rw [List.mem_eraseDups, List.mem_map]

/-! ### Fresh releases -/

theorem nodup_fresh (graph : DeclaredGraph) (met : List Release) (release : Release) :
    (graph.fresh met release).Nodup :=
  (nodup_eraseDups _).filter _

theorem mem_fresh {graph : DeclaredGraph} {met : List Release} {release next : Release} :
    next ∈ graph.fresh met release ↔ graph.Leads release next ∧ next ∉ met := by
  unfold fresh Leads
  rw [List.mem_filter, decide_eq_true_iff]

/-! ### One visit of a run -/

theorem expandQueue_nil (graph : DeclaredGraph) (limit : Nat) (met : List Release) :
    graph.expandQueue limit [] met = ([], false) := by
  rw [expandQueue]

theorem expandQueue_of_lt (graph : DeclaredGraph) {limit depth : Nat} (release : Release)
    (rest : List (Release × Nat)) (met : List Release) (above : depth < limit) :
    graph.expandQueue limit ((release, depth) :: rest) met =
      ((graph.expandQueue limit (rest ++ (graph.fresh met release).map (·, depth + 1))
        (graph.fresh met release ++ met)).map (graph.node release depth :: ·) id) := by
  rw [expandQueue]
  simp only [if_pos above]
  rfl

theorem expandQueue_of_le (graph : DeclaredGraph) {limit depth : Nat} (release : Release)
    (rest : List (Release × Nat)) (met : List Release) (atLimit : limit ≤ depth) :
    graph.expandQueue limit ((release, depth) :: rest) met =
      (graph.expandQueue limit rest met).map (graph.node release depth :: ·)
        (!(graph.fresh met release).isEmpty || ·) := by
  rw [expandQueue]
  simp only [if_neg (Nat.not_lt.2 atLimit)]
  rfl

/-! ### The frontier -/

structure Frontier (graph : DeclaredGraph) (root : Release) (limit : Nat)
    (queue : List (Release × Nat)) (met : List Release) : Prop where
  rootMet : root ∈ met
  queuedOnce : (queue.map Prod.fst).Nodup
  queuedMet : ∀ entry ∈ queue, entry.1 ∈ met
  distances : ∀ entry ∈ queue, IsDistance graph.Leads root entry.1 entry.2
  within : ∀ entry ∈ queue, entry.2 ≤ limit
  ascends : queue.Pairwise fun earlier later => earlier.2 ≤ later.2
  span : ∀ entry ∈ queue, ∀ other ∈ queue, other.2 ≤ entry.2 + 1
  /-- What was visited above the limit has all its successors met. -/
  closed : ∀ release ∈ met, ∀ length < limit, Walk graph.Leads root length release →
    release ∈ queue.map Prod.fst ∨ ∀ next, graph.Leads release next → next ∈ met

theorem frontier_initial (graph : DeclaredGraph) (root : Release) (limit : Nat) :
    Frontier graph root limit [(root, 0)] [root] where
  rootMet := List.mem_singleton_self root
  queuedOnce := List.nodup_singleton root
  queuedMet := by
    intro entry member
    rw [List.mem_singleton] at member ⊢
    rw [member]
  distances := by
    intro entry member
    rw [List.mem_singleton.1 member]
    exact isDistance_root graph.Leads root
  within := by
    intro entry member
    rw [List.mem_singleton.1 member]
    exact Nat.zero_le limit
  ascends := List.pairwise_singleton _ _
  span := by
    intro entry _member other member
    rw [List.mem_singleton.1 member]
    exact Nat.zero_le _
  closed := by
    intro release member _length _below _walk
    exact Or.inl member

variable {graph : DeclaredGraph} {root release : Release} {limit depth : Nat}
  {queue rest : List (Release × Nat)} {met : List Release}

/-- No release is overlooked that lies above every queued one. -/
theorem Frontier.mem_met_of_walk (frontier : Frontier graph root limit queue met)
    {target : Release} {length : Nat} (walk : Walk graph.Leads root length target)
    (bounded : length ≤ limit) (above : ∀ entry ∈ queue, length ≤ entry.2) : target ∈ met := by
  induction walk with
  | start => exact frontier.rootMet
  | @link length last next walk leads ih =>
      have lastMet : last ∈ met := by
        apply ih (Nat.le_of_succ_le bounded)
        intro entry member
        exact Nat.le_of_succ_le (above entry member)
      rcases frontier.closed last lastMet length bounded walk with queued | closed
      · obtain ⟨entry, member, same⟩ := List.mem_map.1 queued
        have far := above entry member
        have near := (frontier.distances entry member).shortest length (same ▸ walk)
        omega
      · exact closed next leads

theorem Frontier.forall_le_of_head
    (frontier : Frontier graph root limit ((release, depth) :: rest) met) {level : Nat}
    (reached : level ≤ depth) : ∀ entry ∈ (release, depth) :: rest, level ≤ entry.2 := by
  intro entry member
  rcases List.mem_cons.1 member with atHead | later
  · rw [atHead]
    exact reached
  · exact Nat.le_trans reached ((List.pairwise_cons.1 frontier.ascends).1 entry later)

theorem Frontier.mem_met_of_walk_le_head
    (frontier : Frontier graph root limit ((release, depth) :: rest) met)
    {target : Release} {length : Nat} (walk : Walk graph.Leads root length target)
    (below : length ≤ depth) : target ∈ met := by
  have bounded : depth ≤ limit := frontier.within (release, depth) List.mem_cons_self
  exact frontier.mem_met_of_walk walk (Nat.le_trans below bounded)
    (frontier.forall_le_of_head below)

theorem Frontier.isDistance_fresh
    (frontier : Frontier graph root limit ((release, depth) :: rest) met)
    {next : Release} (isFresh : next ∈ graph.fresh met release) :
    IsDistance graph.Leads root next (depth + 1) := by
  obtain ⟨leads, unmet⟩ := mem_fresh.1 isFresh
  have atHead := frontier.distances (release, depth) List.mem_cons_self
  refine ⟨.link atHead.walk leads, ?_⟩
  intro length walk
  apply Nat.lt_of_not_le
  intro below
  exact unmet (frontier.mem_met_of_walk_le_head walk below)

/-! ### The frontier after a visit -/

theorem Frontier.leave (frontier : Frontier graph root limit ((release, depth) :: rest) met)
    (atLimit : limit ≤ depth) : Frontier graph root limit rest met where
  rootMet := frontier.rootMet
  queuedOnce := (List.nodup_cons.1 frontier.queuedOnce).2
  queuedMet entry member := frontier.queuedMet entry (List.mem_cons_of_mem _ member)
  distances entry member := frontier.distances entry (List.mem_cons_of_mem _ member)
  within entry member := frontier.within entry (List.mem_cons_of_mem _ member)
  ascends := (List.pairwise_cons.1 frontier.ascends).2
  span entry member other otherMember :=
    frontier.span entry (List.mem_cons_of_mem _ member) other
      (List.mem_cons_of_mem _ otherMember)
  closed := by
    intro target isMet length below walk
    rcases frontier.closed target isMet length below walk with queued | closed
    · rw [List.map_cons, List.mem_cons] at queued
      rcases queued with atHead | later
      · have near := (frontier.distances (release, depth) List.mem_cons_self).shortest length
          (atHead ▸ walk)
        change depth ≤ length at near
        omega
      · exact Or.inl later
    · exact Or.inr closed

/-- The entries that a visit above the limit leaves in the queue are of the
level of the visited release or of the next one. -/
theorem Frontier.levels_expand
    (frontier : Frontier graph root limit ((release, depth) :: rest) met)
    {entry : Release × Nat}
    (member : entry ∈ rest ++ (graph.fresh met release).map (·, depth + 1)) :
    depth ≤ entry.2 ∧ entry.2 ≤ depth + 1 := by
  rcases List.mem_append.1 member with old | new
  · exact ⟨(List.pairwise_cons.1 frontier.ascends).1 entry old,
      frontier.span (release, depth) List.mem_cons_self entry (List.mem_cons_of_mem _ old)⟩
  · obtain ⟨next, _isFresh, rfl⟩ := List.mem_map.1 new
    exact ⟨Nat.le_succ depth, Nat.le_refl _⟩

theorem Frontier.expand (frontier : Frontier graph root limit ((release, depth) :: rest) met)
    (above : depth < limit) :
    Frontier graph root limit (rest ++ (graph.fresh met release).map (·, depth + 1))
      (graph.fresh met release ++ met) where
  rootMet := List.mem_append_right _ frontier.rootMet
  queuedOnce := by
    rw [List.map_append, List.map_map, List.nodup_append]
    have keys : Prod.fst ∘ (fun next : Release => (next, depth + 1)) = id := rfl
    rw [keys, List.map_id]
    refine ⟨(List.nodup_cons.1 frontier.queuedOnce).2, graph.nodup_fresh met release, ?_⟩
    intro old queued new isFresh same
    obtain ⟨entry, member, rfl⟩ := List.mem_map.1 queued
    apply (mem_fresh.1 isFresh).2
    rw [← same]
    exact frontier.queuedMet entry (List.mem_cons_of_mem _ member)
  queuedMet := by
    intro entry member
    rcases List.mem_append.1 member with old | new
    · exact List.mem_append_right _ (frontier.queuedMet entry (List.mem_cons_of_mem _ old))
    · obtain ⟨next, isFresh, rfl⟩ := List.mem_map.1 new
      exact List.mem_append_left _ isFresh
  distances := by
    intro entry member
    rcases List.mem_append.1 member with old | new
    · exact frontier.distances entry (List.mem_cons_of_mem _ old)
    · obtain ⟨next, isFresh, rfl⟩ := List.mem_map.1 new
      exact frontier.isDistance_fresh isFresh
  within entry member := Nat.le_trans (frontier.levels_expand member).2 above
  ascends := by
    rw [List.pairwise_append]
    refine ⟨(List.pairwise_cons.1 frontier.ascends).2, ?_, ?_⟩
    · rw [List.pairwise_map]
      exact List.pairwise_of_forall fun _ _ => Nat.le_refl _
    · intro old member new isNew
      have bounded := (frontier.levels_expand (List.mem_append_left _ member)).2
      obtain ⟨next, _isFresh, rfl⟩ := List.mem_map.1 isNew
      exact bounded
  span := by
    intro entry member other otherMember
    have low := (frontier.levels_expand member).1
    have high := (frontier.levels_expand otherMember).2
    omega
  closed := by
    intro target isMet length below walk
    rw [List.map_append, List.mem_append]
    rcases List.mem_append.1 isMet with isFresh | wasMet
    · left
      right
      exact List.mem_map.2 ⟨(target, depth + 1), List.mem_map.2 ⟨target, isFresh, rfl⟩, rfl⟩
    · rcases frontier.closed target wasMet length below walk with queued | closed
      · rw [List.map_cons, List.mem_cons] at queued
        rcases queued with atHead | later
        · right
          intro next leads
          rw [atHead] at leads
          by_cases known : next ∈ met
          · exact List.mem_append_right _ known
          · exact List.mem_append_left _ (mem_fresh.2 ⟨leads, known⟩)
        · exact Or.inl (Or.inl later)
      · right
        intro next leads
        exact List.mem_append_right _ (closed next leads)

end DeclaredGraph

end ArtifactCatalog
