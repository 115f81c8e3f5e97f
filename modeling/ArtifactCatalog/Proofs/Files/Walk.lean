/-
Walks through trees whose entries have proper and distinct names: no two files
are found at one path.
-/

import ArtifactCatalog.Files.Tree
import Mathlib.Data.List.Nodup

namespace ArtifactCatalog.Files

/-- A name of an entry: not empty and without the mark between the names of a path. -/
def IsFileName (name : String) : Prop := name ≠ "" ∧ '/' ∉ name.toList

instance : DecidablePred IsFileName := fun name =>
  inferInstanceAs (Decidable (name ≠ "" ∧ '/' ∉ name.toList))

namespace FileTree

inductive WellNamed : FileTree → Prop where
  | file (content : StoredFile) : WellNamed (.file content)
  | folder {entries : List (String × FileTree)}
      (distinct : (entries.map Prod.fst).Nodup)
      (named : ∀ entry ∈ entries, IsFileName entry.1)
      (inner : ∀ entry ∈ entries, WellNamed entry.2) : WellNamed (.folder entries)

/-! ### Building -/

theorem wellNamed_empty : WellNamed empty :=
  .folder List.nodup_nil (by simp) (by simp)

theorem mem_setEntry {name : String} {tree : FileTree} {entries : List (String × FileTree)}
    {entry : String × FileTree} (member : entry ∈ setEntry name tree entries) :
    entry = (name, tree) ∨ entry ∈ entries := by
  induction entries with
  | nil => exact .inl (List.mem_singleton.1 member)
  | cons first rest ih =>
      unfold setEntry at member
      split at member
      · rcases List.mem_cons.1 member with same | later
        · exact .inl same
        · exact .inr (List.mem_cons_of_mem first later)
      · rcases List.mem_cons.1 member with same | later
        · exact .inr (same ▸ List.mem_cons_self)
        · exact (ih later).imp_right (List.mem_cons_of_mem first)

theorem nodup_setEntry {name : String} {tree : FileTree} {entries : List (String × FileTree)}
    (distinct : (entries.map Prod.fst).Nodup) :
    ((setEntry name tree entries).map Prod.fst).Nodup := by
  induction entries with
  | nil => exact List.nodup_singleton name
  | cons first rest ih =>
      rw [List.map_cons, List.nodup_cons] at distinct
      unfold setEntry
      split
      · rename_i same
        rw [List.map_cons, List.nodup_cons]
        exact same ▸ distinct
      · rename_i differs
        rw [List.map_cons, List.nodup_cons]
        refine ⟨?_, ih distinct.2⟩
        intro repeated
        obtain ⟨entry, member, atName⟩ := List.mem_map.1 repeated
        rcases mem_setEntry member with rfl | old
        · exact differs atName.symm
        · exact distinct.1 (atName ▸ List.mem_map_of_mem old)

theorem WellNamed.setEntry {name : String} {tree : FileTree} {entries : List (String × FileTree)}
    (isName : IsFileName name) (below : WellNamed tree) (wellNamed : WellNamed (.folder entries)) :
    WellNamed (.folder (FileTree.setEntry name tree entries)) := by
  cases wellNamed with
  | folder distinct named inner =>
      refine .folder (nodup_setEntry distinct) ?_ ?_
      · intro entry member
        rcases mem_setEntry member with rfl | old
        · exact isName
        · exact named entry old
      · intro entry member
        rcases mem_setEntry member with rfl | old
        · exact below
        · exact inner entry old

theorem WellNamed.lookup {name : String} {entries : List (String × FileTree)}
    (wellNamed : WellNamed (.folder entries)) : WellNamed ((entries.lookup name).getD empty) := by
  cases wellNamed with
  | folder _distinct _named inner =>
      cases found : entries.lookup name with
      | none => exact wellNamed_empty
      | some below =>
          obtain ⟨before, after, split, _first⟩ := List.lookup_eq_some_iff.1 found
          exact inner (name, below) (split ▸ List.mem_append_right before List.mem_cons_self)

theorem WellNamed.store {content : StoredFile} {path : List String} {tree : FileTree}
    (named : ∀ name ∈ path, IsFileName name) (wellNamed : WellNamed tree) :
    WellNamed (tree.store content path) := by
  induction path generalizing tree with
  | nil => exact .file content
  | cons name rest ih =>
      cases tree with
      | file other => exact .file other
      | folder entries =>
          obtain ⟨isName, restNamed⟩ := List.forall_mem_cons.1 named
          exact .setEntry isName (ih restNamed wellNamed.lookup) wellNamed

/-! ### Paths of files -/

theorem walkEntries_eq_map (entries : List (String × FileTree)) :
    walkEntries entries = entries.map fun entry => (entry.1, entry.2.walk) := by
  induction entries with
  | nil => rfl
  | cons entry rest ih =>
      unfold walkEntries
      rw [ih]
      rfl

theorem walk_folder_perm (entries : List (String × FileTree)) :
    (walk (folder entries)).Perm
      (entries.flatMap fun entry =>
        entry.2.walk.map fun found => (entry.1 :: found.1, found.2)) := by
  rw [walk, walkEntries_eq_map]
  refine ((List.mergeSort_perm _ _).flatMap_right _).trans ?_
  rw [List.flatMap_map]

theorem walk_store_empty (content : StoredFile) (path : List String) :
    (empty.store content path).walk = [(path, content)] := by
  induction path with
  | nil => rfl
  | cons name rest ih =>
      change walk (folder [(name, empty.store content rest)]) = _
      rw [walk, walkEntries_eq_map, List.map_singleton, List.mergeSort_singleton, ih]
      rfl

theorem walk_store_perm {entries : List (String × FileTree)} {name : String}
    (new : entries.lookup name = none) (content : StoredFile) (rest : List String) :
    ((folder entries).store content (name :: rest)).walk.Perm
      ((name :: rest, content) :: (folder entries).walk) := by
  have atEnd : setEntry name (empty.store content rest) entries =
      entries ++ [(name, empty.store content rest)] := by
    have absent := List.lookup_eq_none_iff.1 new
    clear new
    induction entries with
    | nil => rfl
    | cons entry later ih =>
        have differs : entry.1 ≠ name := by
          intro same
          simpa [same] using absent entry List.mem_cons_self
        unfold setEntry
        rw [if_neg differs, ih fun other isOther => absent other (List.mem_cons_of_mem entry isOther)]
        rfl
  rw [store, new, Option.getD_none, atEnd]
  refine (walk_folder_perm _).trans ?_
  rw [List.flatMap_append, List.flatMap_singleton, walk_store_empty]
  exact List.perm_append_comm.trans ((walk_folder_perm entries).symm.cons _)

theorem mem_walk_folder_iff {entries : List (String × FileTree)} {path : List String}
    {content : StoredFile} :
    (path, content) ∈ walk (folder entries) ↔
      ∃ entry ∈ entries, ∃ rest, (rest, content) ∈ entry.2.walk ∧ entry.1 :: rest = path := by
  rw [(walk_folder_perm entries).mem_iff]
  simp

theorem WellNamed.isFileName_of_mem_walk {tree : FileTree} (wellNamed : WellNamed tree)
    {path : List String} {content : StoredFile} (found : (path, content) ∈ tree.walk) :
    ∀ name ∈ path, IsFileName name := by
  induction wellNamed generalizing path with
  | file other =>
      unfold walk at found
      cases List.mem_singleton.1 found
      exact fun name impossible => absurd impossible List.not_mem_nil
  | folder _distinct named _inner ih =>
      obtain ⟨entry, isEntry, rest, below, rfl⟩ := mem_walk_folder_iff.1 found
      exact List.forall_mem_cons.2 ⟨named entry isEntry, ih entry isEntry below⟩

theorem WellNamed.nodup_paths {tree : FileTree} (wellNamed : WellNamed tree) :
    (tree.walk.map Prod.fst).Nodup := by
  induction wellNamed with
  | file other => exact List.nodup_singleton []
  | @folder entries distinct _named _inner ih =>
      rw [((walk_folder_perm entries).map Prod.fst).nodup_iff, List.map_flatMap, List.nodup_flatMap]
      constructor
      · intro entry isEntry
        have below := (ih entry isEntry).map (List.cons_injective (a := entry.1))
        rw [List.map_map] at below ⊢
        exact below
      · refine (List.pairwise_map.1 distinct).imp ?_
        intro entry other differ path inEntry inOther
        obtain ⟨_, inFirst, atPath⟩ := List.mem_map.1 inEntry
        obtain ⟨_, _, rfl⟩ := List.mem_map.1 inFirst
        obtain ⟨_, inSecond, atPathToo⟩ := List.mem_map.1 inOther
        obtain ⟨_, _, rfl⟩ := List.mem_map.1 inSecond
        exact differ (List.cons.inj (atPath.trans atPathToo.symm)).1

end FileTree

end ArtifactCatalog.Files
