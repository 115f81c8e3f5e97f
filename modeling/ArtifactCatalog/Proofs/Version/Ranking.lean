/-
Two arrangements of the same entries by version. They differ among entries of equal rank
only: the versions at each place are equal in the order of releases.
-/

import ArtifactCatalog.Proofs.Version.Arrangement
import Mathlib.Data.List.Forall2

namespace ArtifactCatalog

variable {α : Type} {version : α → String} {listed other : List α}

/-- The same entries in two lists that have versions of one rank at each place. An entry that
is elsewhere in the other list is there in the place of one of its rank, and two entries
that have changed their order are of one rank. -/
structure VersionOrder.RanksAlike (order : VersionOrder) (version : α → String)
    (listed other : List α) : Prop where
  perm : listed.Perm other
  level : List.Forall₂ (fun entry instead =>
    order.compare (version entry) (version instead) = .eq) listed other
  moved : ∀ (here there : Nat) (entry instead : α), listed[here]? = some entry →
    other[there]? = some entry → listed[there]? = some instead →
      order.compare (version entry) (version instead) = .eq
  exchanged : ∀ first second, [first, second].Sublist listed → [second, first].Sublist other →
    order.compare (version first) (version second) = .eq

theorem forall₂_maven_of_perm (perm : listed.Perm other)
    (ascending : VersionOrder.maven.Ascending version listed)
    (alsoAscending : VersionOrder.maven.Ascending version other) :
    List.Forall₂ (fun entry instead =>
      VersionOrder.maven.compare (version entry) (version instead) = .eq) listed other := by
  -- Standings are lists of numbers, which the order tells apart, so they are in one order only.
  have pairwise {entries : List α} (ascends : VersionOrder.maven.Ascending version entries) :
      (entries.map fun entry => versionStandings (version entry)).Pairwise
        fun earlier later => compare earlier later ≠ .gt := by
    rw [List.pairwise_map]
    refine ascends.imp ?_
    intro earlier later notAbove
    rw [← maven_compare_eq_compare_versionStandings]
    exact notAbove
  have same := (perm.map fun entry => versionStandings (version entry)).eq_of_pairwise
    (fun a b _ _ notAbove notBelow => Std.compare_eq_iff_eq.1
      (Std.OrientedCmp.isLE_antisymm (Ordering.isLE_iff_ne_gt.2 notAbove)
        (Ordering.isLE_iff_ne_gt.2 notBelow)))
    (pairwise ascending) (pairwise alsoAscending)
  rw [← List.forall₂_eq_eq_eq, List.forall₂_map_left_iff, List.forall₂_map_right_iff] at same
  refine same.imp ?_
  intro entry instead equal
  rw [maven_compare_eq_compare_versionStandings, equal, Std.ReflOrd.compare_self]

theorem compare_getElem?_of_forall₂ {order : VersionOrder}
    (level : List.Forall₂ (fun entry instead =>
      order.compare (version entry) (version instead) = .eq) listed other)
    {place : Nat} {entry instead : α} (isEntry : listed[place]? = some entry)
    (isInstead : other[place]? = some instead) :
    order.compare (version entry) (version instead) = .eq := by
  obtain ⟨within, rfl⟩ := List.getElem?_eq_some_iff.1 isEntry
  obtain ⟨alsoWithin, rfl⟩ := List.getElem?_eq_some_iff.1 isInstead
  exact level.get within alsoWithin

theorem ranksAlike_of_ascending (perm : listed.Perm other)
    (ascending : VersionOrder.maven.Ascending version listed)
    (alsoAscending : VersionOrder.maven.Ascending version other) :
    VersionOrder.maven.RanksAlike version listed other where
  perm := perm
  level := forall₂_maven_of_perm perm ascending alsoAscending
  moved := by
    intro here there entry instead _isHere isThere isInstead
    have level := forall₂_maven_of_perm perm ascending alsoAscending
    exact Std.OrientedCmp.eq_symm (compare_getElem?_of_forall₂ level isInstead isThere)
  exchanged := by
    intro first second before behind
    have notAbove := List.rel_of_pairwise_cons (ascending.sublist before)
      (List.mem_singleton_self _)
    have notBelow := List.rel_of_pairwise_cons (alsoAscending.sublist behind)
      (List.mem_singleton_self _)
    exact VersionOrder.eq_of_not_gt notAbove notBelow

end ArtifactCatalog
