/-
The walk through a tree is determined by the files that its paths lead to. It
visits them by the bytes of their names, name by name, so an edit of one file
leaves the walk past all others as it is.
-/

import ArtifactCatalog.Proofs.Files.Walk
import ArtifactCatalog.Proofs.Text.ByteOrder
import ArtifactCatalog.Registry

namespace ArtifactCatalog.Files

/-! ### Order of paths -/

/-- The names of a path as bytes. Lists of bytes, and lists of such lists, compare at
their first difference, so the order of these lists is the order of paths by name. -/
def pathBytes (path : List String) : List (List UInt8) := path.map Text.Utf8.bytesOf

/-- What is listed by path stands in the order of the paths, one item at a path. -/
def Ascending {α : Type} (listed : List (List String × α)) : Prop :=
  listed.Pairwise fun a b => pathBytes a.1 < pathBytes b.1

section Ascending

variable {α : Type} {listed other : List (List String × α)}

theorem Ascending.nodup (ascending : Ascending listed) : (listed.map Prod.fst).Nodup := by
  refine List.pairwise_map.2 (ascending.imp ?_)
  intro a b below same
  rw [same] at below
  exact List.lt_irrefl _ below

theorem Ascending.filter (ascending : Ascending listed) (test : List String × α → Bool) :
    Ascending (listed.filter test) :=
  List.Pairwise.filter test ascending

theorem Ascending.ext (ascending : Ascending listed) (ascendingToo : Ascending other)
    (alike : ∀ item, item ∈ listed ↔ item ∈ other) : listed = other := by
  have together : listed.Perm other :=
    (List.perm_ext_iff_of_nodup ascending.nodup.of_map ascendingToo.nodup.of_map).2 alike
  refine List.Perm.eq_of_pairwise ?_ ascending ascendingToo together
  intro a b _isListed _isOther below above
  exact absurd (List.lt_trans below above) (List.lt_irrefl _)

end Ascending

namespace FileTree

/-! ### Order of the walk -/

theorem nameLE_iff {α : Type} (a b : String × α) :
    nameLE a b = true ↔ Text.Utf8.bytesOf a.1 ≤ Text.Utf8.bytesOf b.1 :=
  Text.compareStrings_isLE_iff a.1 b.1

theorem pairwise_mergeSort_nameLE {α : Type} (entries : List (String × α)) :
    (entries.mergeSort nameLE).Pairwise fun a b =>
      Text.Utf8.bytesOf a.1 ≤ Text.Utf8.bytesOf b.1 := by
  have sorted := @List.pairwise_mergeSort _ nameLE ?_ ?_ entries
  · exact sorted.imp fun {a b} => (nameLE_iff a b).1
  · intro a b c below belowToo
    rw [nameLE_iff] at below belowToo ⊢
    exact List.le_trans below belowToo
  · intro a b
    rw [Bool.or_eq_true, nameLE_iff, nameLE_iff]
    exact List.le_total _ _

theorem pairwise_mergeSort_nameLT {α : Type} {entries : List (String × α)}
    (distinct : (entries.map Prod.fst).Nodup) :
    (entries.mergeSort nameLE).Pairwise fun a b =>
      Text.Utf8.bytesOf a.1 < Text.Utf8.bytesOf b.1 := by
  have stillDistinct : ((entries.mergeSort nameLE).map Prod.fst).Nodup :=
    ((List.mergeSort_perm entries nameLE).map Prod.fst).nodup_iff.2 distinct
  refine ((pairwise_mergeSort_nameLE entries).and (List.pairwise_map.1 stillDistinct)).imp ?_
  rintro a b ⟨notAbove, differ⟩
  exact Std.lt_of_le_of_ne notAbove fun same => differ (Text.bytesOf_injective same)

theorem WellNamed.ascending_walk {tree : FileTree} (wellNamed : tree.WellNamed) :
    Ascending tree.walk := by
  induction wellNamed with
  | file content => exact List.pairwise_singleton _ _
  | @folder entries distinct _named _inner ih =>
      unfold walk Ascending
      -- Below one name the order is that of the subtree; two names decide before
      -- anything below them is looked at.
      rw [walkEntries_eq_map, List.pairwise_flatMap]
      constructor
      · intro found isFound
        obtain ⟨entry, isEntry, rfl⟩ := List.mem_map.1 (List.mem_mergeSort.1 isFound)
        refine List.pairwise_map.2 ((ih entry isEntry).imp ?_)
        intro a b below
        exact List.cons_lt_cons_self.2 below
      · have named : (entries.map fun entry => (entry.1, entry.2.walk)).map Prod.fst =
            entries.map Prod.fst := List.map_map
        refine (pairwise_mergeSort_nameLT (named ▸ distinct)).imp ?_
        intro found other below a inFound b inOther
        obtain ⟨_, _, rfl⟩ := List.mem_map.1 inFound
        obtain ⟨_, _, rfl⟩ := List.mem_map.1 inOther
        exact List.cons_lt_cons_iff.2 (.inl below)

/-! ### Files at paths -/

def storedAt? : FileTree → List String → Option StoredFile
  | file content, [] => some content
  | folder entries, name :: rest => (entries.lookup name).bind fun below => below.storedAt? rest
  | _, _ => none

theorem lookup_eq_some_iff_mem {entries : List (String × FileTree)}
    (distinct : (entries.map Prod.fst).Nodup) {name : String} {tree : FileTree} :
    entries.lookup name = some tree ↔ (name, tree) ∈ entries := by
  constructor
  · intro found
    obtain ⟨before, after, split, _first⟩ := List.lookup_eq_some_iff.1 found
    rw [split]
    exact List.mem_append_right before List.mem_cons_self
  · intro isEntry
    cases found : entries.lookup name with
    | none =>
        have differs := List.lookup_eq_none_iff.1 found (name, tree) isEntry
        exact absurd differs (by simp)
    | some other =>
        obtain ⟨before, after, split, _first⟩ := List.lookup_eq_some_iff.1 found
        have isEntryToo : (name, other) ∈ entries :=
          split ▸ List.mem_append_right before List.mem_cons_self
        have same := List.inj_on_of_nodup_map distinct isEntry isEntryToo rfl
        exact congrArg some (Prod.mk.inj same).2.symm

theorem WellNamed.mem_walk_iff {tree : FileTree} (wellNamed : tree.WellNamed)
    {path : List String} {content : StoredFile} :
    (path, content) ∈ tree.walk ↔ tree.storedAt? path = some content := by
  induction wellNamed generalizing path with
  | file other =>
      unfold walk
      cases path with
      | nil =>
          rw [List.mem_singleton, Prod.mk.injEq, storedAt?, Option.some.injEq,
            and_iff_right rfl, eq_comm]
      | cons name rest =>
          rw [List.mem_singleton, Prod.mk.injEq]
          exact iff_of_false (fun same => List.cons_ne_nil name rest same.1)
            (Option.some_ne_none content ∘ Eq.symm)
  | @folder entries distinct _named _inner ih =>
      rw [mem_walk_folder_iff]
      cases path with
      | nil =>
          refine iff_of_false ?_ (Option.some_ne_none content ∘ Eq.symm)
          rintro ⟨entry, _isEntry, rest, _below, atPath⟩
          exact List.cons_ne_nil entry.1 rest atPath
      | cons name rest =>
          rw [storedAt?, Option.bind_eq_some_iff]
          constructor
          · rintro ⟨entry, isEntry, _, below, atPath⟩
            cases atPath
            exact ⟨entry.2, (lookup_eq_some_iff_mem distinct).2 isEntry, (ih entry isEntry).1 below⟩
          · rintro ⟨below, isEntry, found⟩
            have member := (lookup_eq_some_iff_mem distinct).1 isEntry
            exact ⟨(name, below), member, rest, (ih _ member).2 found, rfl⟩

/-! ### Edits of one file -/

/-- All paths other than `path` lead to the same files in both trees. -/
def DifferOnlyAt (path : List String) (tree other : FileTree) : Prop :=
  ∀ elsewhere, elsewhere ≠ path → other.storedAt? elsewhere = tree.storedAt? elsewhere

theorem walk_apart_eq {tree other : FileTree} {path : List String} (wellNamed : tree.WellNamed)
    (wellNamedToo : other.WellNamed) (edited : DifferOnlyAt path tree other) :
    other.walk.filter (·.1 ≠ path) = tree.walk.filter (·.1 ≠ path) := by
  apply (wellNamedToo.ascending_walk.filter _).ext (wellNamed.ascending_walk.filter _)
  rintro ⟨elsewhere, content⟩
  rw [List.mem_filter, List.mem_filter, wellNamed.mem_walk_iff, wellNamedToo.mem_walk_iff]
  apply and_congr_left
  intro apart
  rw [edited elsewhere (of_decide_eq_true apart)]

/-- A folder takes entries as a table does that is kept by keys. -/
theorem setEntry_eq_putEntry (name : String) (tree : FileTree)
    (entries : List (String × FileTree)) :
    setEntry name tree entries = putEntry name tree entries := by
  induction entries with
  | nil => rfl
  | cons entry rest ih =>
      unfold setEntry putEntry
      rw [ih]

theorem lookup_setEntry (name other : String) (tree : FileTree)
    (entries : List (String × FileTree)) :
    (setEntry name tree entries).lookup other =
      if other = name then some tree else entries.lookup other := by
  rw [setEntry_eq_putEntry, lookup_putEntry]

theorem storedAt?_empty (path : List String) : empty.storedAt? path = none := by
  cases path with
  | nil => rfl
  | cons name rest => rfl

theorem storedAt?_getD_lookup (entries : List (String × FileTree)) (name : String)
    (rest : List String) :
    ((entries.lookup name).getD empty).storedAt? rest =
      (folder entries).storedAt? (name :: rest) := by
  rw [storedAt?]
  cases entries.lookup name with
  | none => exact storedAt?_empty rest
  | some below => rfl

theorem storedAt?_store {content : StoredFile} {path elsewhere : List String} {tree : FileTree}
    (apart : ¬ path <+: elsewhere) :
    (tree.store content path).storedAt? elsewhere = tree.storedAt? elsewhere := by
  induction path generalizing elsewhere tree with
  | nil => exact absurd List.nil_prefix apart
  | cons name rest ih =>
      cases tree with
      | file other => rfl
      | folder entries =>
          cases elsewhere with
          | nil => rfl
          | cons other further =>
              rw [store, storedAt?, lookup_setEntry, storedAt?]
              by_cases same : other = name
              · subst same
                rw [if_pos rfl, Option.bind_some, ih, storedAt?_getD_lookup, storedAt?]
                exact fun inside => apart (List.cons_prefix_cons.2 ⟨rfl, inside⟩)
              · rw [if_neg same]

theorem storedAt?_store_below {content : StoredFile} {path rest : List String} {tree : FileTree}
    (below : rest ≠ []) : (tree.store content path).storedAt? (path ++ rest) = none := by
  induction path generalizing tree with
  | nil =>
      obtain ⟨name, further, split⟩ := List.exists_cons_of_ne_nil below
      rw [split]
      rfl
  | cons name inner ih =>
      cases tree with
      | file other => rfl
      | folder entries =>
          rw [store, List.cons_append, storedAt?, lookup_setEntry, if_pos rfl]
          exact ih

theorem differOnlyAt_store {content : StoredFile} {path : List String} {tree : FileTree}
    (clear : ∀ rest, rest ≠ [] → tree.storedAt? (path ++ rest) = none) :
    DifferOnlyAt path tree (tree.store content path) := by
  intro elsewhere apart
  by_cases within : path <+: elsewhere
  · obtain ⟨rest, rfl⟩ := within
    have below : rest ≠ [] := by
      rintro rfl
      exact apart (List.append_nil path)
    rw [clear rest below, storedAt?_store_below below]
  · exact storedAt?_store within

end FileTree

end ArtifactCatalog.Files
