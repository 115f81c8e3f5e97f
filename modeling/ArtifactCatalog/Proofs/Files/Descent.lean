/-
Paths that lead down by names alone. A path is followed to the file that its names lead to,
and a walk through the tree comes to this file once.
-/

import ArtifactCatalog.Proofs.Files.Paths
import ArtifactCatalog.Proofs.Files.WalkOrder

namespace ArtifactCatalog.Files

/-! ### Paths that lead down -/

/-- Every name of the path leads from a folder to one of its entries. -/
structure LeadsDown (path : List Char) : Prop where
  noGap : "" ∉ pathNames path
  noStay : "." ∉ pathNames path
  neverClimbs : NeverClimbs path

instance : DecidablePred LeadsDown := fun path =>
  decidable_of_iff ("" ∉ pathNames path ∧ "." ∉ pathNames path ∧ NeverClimbs path)
    ⟨fun ⟨noGap, noStay, neverClimbs⟩ => ⟨noGap, noStay, neverClimbs⟩,
      fun down => ⟨down.noGap, down.noStay, down.neverClimbs⟩⟩

theorem LeadsDown.isRelative {path : List Char} (down : LeadsDown path) : IsRelative path := by
  intro slashFirst
  obtain ⟨rest, rfl⟩ := List.head?_eq_some_iff.1 slashFirst
  apply down.noGap
  rw [← List.nil_append ('/' :: rest), pathNames_append_slash]
  exact List.mem_append_left _ (by decide)

namespace FileTree

theorem foldlM_follow?_eq_storedAt? {names : List String} (noGap : "" ∉ names)
    (noStay : "." ∉ names) (neverUp : ".." ∉ names) (tree : FileTree) (above : List FileTree) :
    ((names.foldlM follow? (tree :: above)).bind List.head?).bind content? =
      tree.storedAt? names := by
  induction names generalizing tree above with
  | nil =>
      cases tree with
      | file content => rfl
      | folder entries => rfl
  | cons name rest ih =>
      rw [List.mem_cons, not_or] at noGap noStay neverUp
      cases tree with
      | file content => rfl
      | folder entries =>
          have entered : follow? (folder entries :: above) name =
              (entries.lookup name).map (· :: folder entries :: above) := by
            unfold follow?
            dsimp only
            rw [if_neg (not_or.2 ⟨Ne.symm noGap.1, Ne.symm noStay.1⟩),
              if_neg (Ne.symm neverUp.1)]
          rw [List.foldlM_cons, entered, storedAt?]
          cases entries.lookup name with
          | none => rfl
          | some below => exact ih noGap.2 noStay.2 neverUp.2 below (folder entries :: above)

theorem fileAt?_eq_storedAt? {path : String} (down : LeadsDown path.toList) (root : FileTree) :
    root.fileAt? path = root.storedAt? (pathNames path.toList) := by
  have nonempty : path ≠ "" := by
    intro empty
    rw [empty] at down
    exact down.noGap (by decide)
  rw [fileAt?_eq_of_neverClimbs nonempty down.isRelative down.neverClimbs root []]
  exact foldlM_follow?_eq_storedAt? down.noGap down.noStay down.neverClimbs root []

theorem WellNamed.filter_walk_eq {tree : FileTree} (wellNamed : tree.WellNamed)
    (path : List String) :
    tree.walk.filter (·.1 = path) = ((tree.storedAt? path).map (path, ·)).toList := by
  refine (wellNamed.ascending_walk.filter _).ext ?_ ?_
  · cases tree.storedAt? path with
    | none => exact List.Pairwise.nil
    | some content => exact List.pairwise_singleton _ _
  · intro found
    obtain ⟨elsewhere, content⟩ := found
    rw [List.mem_filter, wellNamed.mem_walk_iff, Option.mem_toList, Option.map_eq_some_iff,
      decide_eq_true_iff]
    constructor
    · intro both
      obtain ⟨stored, rfl⟩ := both
      exact ⟨content, stored, rfl⟩
    · intro atPath
      obtain ⟨_, stored, same⟩ := atPath
      cases same
      exact ⟨stored, rfl⟩

end FileTree

end ArtifactCatalog.Files
