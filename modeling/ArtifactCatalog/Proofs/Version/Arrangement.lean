/-
Arrangements of entries by version: no version stands behind a greater one, at
whatever distance, and versions of equal rank stand as they stood before. There
is one such arrangement, and sorting finds it.
-/

import ArtifactCatalog.Proofs.Version.Preorder

namespace ArtifactCatalog.VersionOrder

variable {α : Type}

def ofRank (order : VersionOrder) (version : α → String) (rank : String)
    (entries : List α) : List α :=
  entries.filter fun entry => order.compare rank (version entry) == .eq

/-- No entry stands behind one with a greater version, at whatever distance. -/
def Ascending (order : VersionOrder) (version : α → String) (entries : List α) : Prop :=
  entries.Pairwise fun earlier later => order.compare (version earlier) (version later) ≠ .gt

/-- The same entries in ascending order, those of one rank as they stood before. -/
structure Arranges (order : VersionOrder) (version : α → String)
    (entries arranged : List α) : Prop where
  perm : arranged.Perm entries
  ascending : order.Ascending version arranged
  stable : ∀ rank, order.ofRank version rank arranged = order.ofRank version rank entries

section Existence

variable (order : VersionOrder) [Std.TransCmp order.compare]

theorem notAbove_trans (a b c : String) (first : (order.compare a b != .gt) = true)
    (second : (order.compare b c != .gt) = true) : (order.compare a c != .gt) = true := by
  have firstLE : (order.compare a b).isLE = true := Ordering.isLE_iff_ne_gt.2 (bne_iff_ne.1 first)
  have secondLE : (order.compare b c).isLE = true :=
    Ordering.isLE_iff_ne_gt.2 (bne_iff_ne.1 second)
  exact bne_iff_ne.2 (Ordering.isLE_iff_ne_gt.1 (Std.TransCmp.isLE_trans firstLE secondLE))

theorem notAbove_total (a b : String) :
    (order.compare a b != .gt || order.compare b a != .gt) = true := by
  have swapped : order.compare b a = (order.compare a b).swap := Std.OrientedCmp.eq_swap
  rw [swapped]
  cases order.compare a b with
  | lt => rfl
  | eq => rfl
  | gt => rfl

theorem pairwise_ofRank (version : α → String) (rank : String) (entries : List α) :
    (order.ofRank version rank entries).Pairwise fun earlier later =>
      (order.compare (version earlier) (version later) != .gt) = true := by
  unfold ofRank
  rw [List.pairwise_filter]
  apply List.pairwise_of_forall
  intro earlier later atRank alsoAtRank
  have before : order.compare rank (version earlier) = .eq := eq_of_beq atRank
  have behind : order.compare rank (version later) = .eq := eq_of_beq alsoAtRank
  have equal : order.compare (version earlier) (version later) = .eq :=
    Std.TransCmp.eq_trans (Std.OrientedCmp.eq_symm before) behind
  rw [equal]
  rfl

theorem arranges_sortOn (version : α → String) (entries : List α) :
    order.Arranges version entries (order.sortOn version entries) := by
  have trans (a b c : α) := notAbove_trans order (version a) (version b) (version c)
  have total (a b : α) := notAbove_total order (version a) (version b)
  have perm : (order.sortOn version entries).Perm entries := List.mergeSort_perm _ _
  refine ⟨perm, ?_, ?_⟩
  · have sorted := List.pairwise_mergeSort trans total entries
    exact sorted.imp fun notAbove => bne_iff_ne.1 notAbove
  · -- Entries of one rank are in order, so the sort keeps them as they stand.
    intro rank
    have kept : (order.ofRank version rank entries).Sublist (order.sortOn version entries) :=
      List.sublist_mergeSort trans total (pairwise_ofRank order version rank entries)
        List.filter_sublist
    have filtered := kept.filter fun entry => order.compare rank (version entry) == .eq
    have again : (order.ofRank version rank entries).filter
        (fun entry => order.compare rank (version entry) == .eq) =
          order.ofRank version rank entries := by
      unfold ofRank
      rw [List.filter_filter]
      simp only [Bool.and_self]
    rw [again] at filtered
    have length : (order.ofRank version rank entries).length =
        (order.ofRank version rank (order.sortOn version entries)).length :=
      (perm.filter _).length_eq.symm
    exact (filtered.eq_of_length length).symm

end Existence

section Uniqueness

variable {order : VersionOrder} [Std.TransCmp order.compare]

theorem eq_of_not_gt {a b : String} (notAbove : order.compare a b ≠ .gt)
    (notBelow : order.compare b a ≠ .gt) : order.compare a b = .eq :=
  Std.OrientedCmp.isLE_antisymm (Ordering.isLE_iff_ne_gt.2 notAbove)
    (Ordering.isLE_iff_ne_gt.2 notBelow)

theorem head_eq_of_sameRanks {version : α → String} {first second : α} {rest others : List α}
    (perm : (first :: rest).Perm (second :: others))
    (ascending : order.Ascending version (first :: rest))
    (alsoAscending : order.Ascending version (second :: others))
    (sameRanks : ∀ rank, order.ofRank version rank (first :: rest) =
      order.ofRank version rank (second :: others)) : first = second := by
  rcases List.mem_cons.1 (perm.mem_iff.1 List.mem_cons_self) with same | behindSecond
  · exact same
  rcases List.mem_cons.1 (perm.mem_iff.2 List.mem_cons_self) with same | behindFirst
  · exact same.symm
  have notAbove := List.rel_of_pairwise_cons ascending behindFirst
  have notBelow := List.rel_of_pairwise_cons alsoAscending behindSecond
  have equal := eq_of_not_gt notAbove notBelow
  have heads := congrArg List.head? (sameRanks (version first))
  have itself : order.compare (version first) (version first) = .eq := Std.ReflCmp.compare_self
  unfold ofRank at heads
  rw [List.filter_cons_of_pos (by rw [itself]; rfl), List.filter_cons_of_pos (by rw [equal]; rfl)]
    at heads
  exact Option.some.inj heads

theorem eq_of_sameRanks {version : α → String} {first second : List α}
    (perm : first.Perm second) (ascending : order.Ascending version first)
    (alsoAscending : order.Ascending version second)
    (sameRanks : ∀ rank, order.ofRank version rank first = order.ofRank version rank second) :
    first = second := by
  induction first generalizing second with
  | nil => exact perm.nil_eq
  | cons head rest ih =>
      cases second with
      | nil => exact perm.eq_nil
      | cons other others =>
          have same := head_eq_of_sameRanks perm ascending alsoAscending sameRanks
          subst same
          congr 1
          refine ih perm.cons_inv (List.Pairwise.tail ascending)
            (List.Pairwise.tail alsoAscending) ?_
          intro rank
          have atRank := sameRanks rank
          unfold ofRank at atRank ⊢
          rw [List.filter_cons, List.filter_cons] at atRank
          split at atRank
          · exact (List.cons.inj atRank).2
          · exact atRank

theorem Arranges.unique {version : α → String} {entries first second : List α}
    (arranges : order.Arranges version entries first)
    (alsoArranges : order.Arranges version entries second) : first = second :=
  eq_of_sameRanks (arranges.perm.trans alsoArranges.perm.symm) arranges.ascending
    alsoArranges.ascending
    fun rank => (arranges.stable rank).trans (alsoArranges.stable rank).symm

/-- Entries of one version have one rank, so the first of them stays the first. -/
theorem Arranges.find?_version {version : α → String} {entries arranged : List α}
    (arranges : order.Arranges version entries arranged) (text : String) :
    arranged.find? (fun entry => version entry == text) =
      entries.find? fun entry => version entry == text := by
  have itself : order.compare text text = .eq := Std.ReflCmp.compare_self
  have withinRank (list : List α) : (list.find? fun entry => version entry == text) =
      (order.ofRank version text list).find? fun entry => version entry == text := by
    unfold ofRank
    rw [List.find?_filter]
    congr 1
    funext entry
    by_cases same : version entry = text
    · simp [same, itself]
    · simp [same]
  rw [withinRank arranged, withinRank entries, arranges.stable]

end Uniqueness

theorem map_sortOn (order : VersionOrder) (version : α → String) (entries : List α) :
    (order.sortOn version entries).map version = order.sort (entries.map version) := by
  unfold sort sortOn
  apply List.map_mergeSort
  intro a _ b _
  rfl

end ArtifactCatalog.VersionOrder
