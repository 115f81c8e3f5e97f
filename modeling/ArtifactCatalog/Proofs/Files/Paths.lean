/-
Paths that stay below the folder they start at. A path without the name that
leads back up only ever leads on, wherever its folder lies: its place has the
place of the folder behind it, and it is found in the folder alone.
-/

import ArtifactCatalog.Files.Tree
import ArtifactCatalog.Proofs.Text.Joining

namespace ArtifactCatalog.Files

/-! ### Names of a path -/

def pathNames (path : List Char) : List String := (path.splitOn '/').map String.ofList

def IsRelative (path : List Char) : Prop := path.head? ≠ some '/'

def NeverClimbs (path : List Char) : Prop := ".." ∉ pathNames path

instance : DecidablePred IsRelative := fun path =>
  inferInstanceAs (Decidable (path.head? ≠ some '/'))

instance : DecidablePred NeverClimbs := fun path =>
  inferInstanceAs (Decidable (".." ∉ pathNames path))

theorem pathNames_append_slash (front back : List Char) :
    pathNames (front ++ '/' :: back) = pathNames front ++ pathNames back := by
  unfold pathNames
  rw [List.splitOn_append_cons_self, List.map_append]

theorem pathNames_of_not_mem {path : List Char} (slashFree : '/' ∉ path) :
    pathNames path = [String.ofList path] := by
  unfold pathNames
  rw [List.splitOn_eq_singleton slashFree, List.map_singleton]

theorem neverClimbs_append_slash (front back : List Char) :
    NeverClimbs (front ++ '/' :: back) ↔ NeverClimbs front ∧ NeverClimbs back := by
  unfold NeverClimbs
  rw [pathNames_append_slash, List.mem_append, not_or]

theorem neverClimbs_iff_of_not_mem {path : List Char} (slashFree : '/' ∉ path) :
    NeverClimbs path ↔ path ≠ "..".toList := by
  unfold NeverClimbs
  rw [pathNames_of_not_mem slashFree, List.mem_singleton]
  constructor
  · intro differs same
    subst same
    exact differs rfl
  · intro differs same
    exact differs (by rw [← @String.toList_ofList path, ← same])

def leadsOn (name : String) : Bool := name != "" && name != "."

theorem stays_of_not_leadsOn {name : String} (stays : ¬ leadsOn name = true) :
    name = "" ∨ name = "." := by
  unfold leadsOn at stays
  rw [Bool.and_eq_true, bne_iff_ne, bne_iff_ne] at stays
  by_cases empty : name = ""
  · exact .inl empty
  · exact .inr (Decidable.not_not.1 fun notDot => stays ⟨empty, notDot⟩)

theorem exists_leadsOn_of_mem {path : List Char} {c : Char} (member : c ∈ path)
    (notSlash : c ≠ '/') (notDot : c ≠ '.') : ∃ name ∈ pathNames path, leadsOn name = true := by
  rw [← @List.intercalate_splitOn _ path _ _ '/'] at member
  obtain ⟨part, isPart, within⟩ :=
    (Text.eq_or_mem_of_mem_intercalate member).resolve_left notSlash
  refine ⟨String.ofList part, List.mem_map_of_mem isPart, ?_⟩
  rw [← @String.toList_ofList part] at within
  unfold leadsOn
  rw [Bool.and_eq_true, bne_iff_ne, bne_iff_ne]
  constructor
  · intro empty
    rw [empty] at within
    exact List.not_mem_nil within
  · intro dot
    rw [dot] at within
    exact notDot (List.mem_singleton.1 within)

/-! ### Places -/

/-- Where a name leads from a place. Places are lists of names, the last one
first, down from the root of all files, above which there is nothing. -/
def enter (place : List String) (name : String) : List String :=
  if name = "" ∨ name = "." then place
  else if name = ".." then place.tail
  else name :: place

def placeOf (here : List String) (path : List Char) : List String :=
  (pathNames path).foldl enter (if path.head? = some '/' then [] else here)

/-- A path below a folder. A path from the root of all files takes the place of both. -/
def joinPath (folder path : List Char) : List Char :=
  if path.head? = some '/' then path
  else if folder = [] ∨ folder.getLast? = some '/' then folder ++ path
  else folder ++ '/' :: path

theorem foldl_enter {names : List String} (neverUp : ".." ∉ names) (place : List String) :
    names.foldl enter place = (names.filter leadsOn).reverse ++ place := by
  induction names generalizing place with
  | nil => rfl
  | cons name rest ih =>
      rw [List.mem_cons, not_or] at neverUp
      rw [List.foldl_cons, ih neverUp.2]
      unfold enter
      by_cases on : leadsOn name = true
      · have proper : ¬ (name = "" ∨ name = ".") := by
          unfold leadsOn at on
          simpa using on
        rw [if_neg proper, if_neg (Ne.symm neverUp.1), List.filter_cons_of_pos on,
          List.reverse_cons, List.append_assoc]
        rfl
      · rw [if_pos (stays_of_not_leadsOn on), List.filter_cons_of_neg on]

theorem placeOf_joinPath {path : List Char} (relative : IsRelative path) (here : List String)
    (folder : List Char) :
    placeOf here (joinPath folder path) = (pathNames path).foldl enter (placeOf here folder) := by
  unfold joinPath
  rw [if_neg relative]
  by_cases empty : folder = []
  · subst empty
    rw [if_pos (.inl rfl), List.nil_append]
    unfold placeOf
    rw [if_neg relative]
    rfl
  obtain ⟨first, behind, split⟩ := List.exists_cons_of_ne_nil empty
  have sameStart : ∀ rest : List Char, (folder ++ rest).head? = folder.head? := by
    intro rest
    rw [split]
    rfl
  by_cases ends : folder.getLast? = some '/'
  · -- The slash that is there already ends the names of the folder with an empty one.
    obtain ⟨front, whole⟩ := List.getLast?_eq_some_iff.1 ends
    rw [if_pos (.inr ends)]
    unfold placeOf
    rw [sameStart, whole, List.append_assoc, List.singleton_append, pathNames_append_slash,
      pathNames_append_slash, List.foldl_append, List.foldl_append]
    rfl
  · rw [if_neg (not_or.2 ⟨empty, ends⟩)]
    unfold placeOf
    rw [sameStart, pathNames_append_slash, List.foldl_append]

/-! ### Trees -/

/-- The folders above the first tree are out of reach for a name that does not lead up. -/
theorem follow?_append {name : String} (notUp : name ≠ "..") (tree : FileTree)
    (within above : List FileTree) :
    FileTree.follow? (tree :: within ++ above) name =
      (FileTree.follow? (tree :: within) name).map (· ++ above) := by
  rw [List.cons_append]
  cases tree with
  | file content => rfl
  | folder entries =>
      unfold FileTree.follow?
      dsimp only
      by_cases stays : name = "" ∨ name = "."
      · rw [if_pos stays, if_pos stays]
        rfl
      · rw [if_neg stays, if_neg stays, if_neg notUp, if_neg notUp, Option.map_map]
        rfl

theorem suffix_follow? {name : String} (notUp : name ≠ "..") {stack reached : List FileTree}
    (found : FileTree.follow? stack name = some reached) :
    stack <:+ reached ∧ reached.length = stack.length + if leadsOn name then 1 else 0 := by
  unfold FileTree.follow? at found
  split at found
  · rename_i entries above
    by_cases on : leadsOn name = true
    · have proper : ¬ (name = "" ∨ name = ".") := by
        unfold leadsOn at on
        simpa using on
      rw [if_neg proper, if_neg notUp] at found
      obtain ⟨below, _isEntry, rfl⟩ := Option.map_eq_some_iff.1 found
      rw [if_pos on]
      exact ⟨List.suffix_cons below _, List.length_cons⟩
    · rw [if_pos (stays_of_not_leadsOn on)] at found
      cases found
      rw [if_neg on]
      exact ⟨List.suffix_refl _, rfl⟩
  · cases found

theorem suffix_foldlM_follow? {names : List String} (neverUp : ".." ∉ names)
    {stack reached : List FileTree} (found : names.foldlM FileTree.follow? stack = some reached) :
    stack <:+ reached ∧ reached.length = stack.length + (names.filter leadsOn).length := by
  induction names generalizing stack with
  | nil =>
      cases found
      exact ⟨List.suffix_refl _, rfl⟩
  | cons name rest ih =>
      rw [List.mem_cons, not_or] at neverUp
      rw [List.foldlM_cons] at found
      obtain ⟨next, entered, later⟩ := Option.bind_eq_some_iff.1 found
      obtain ⟨kept, longer⟩ := suffix_follow? (Ne.symm neverUp.1) entered
      obtain ⟨keptLater, longerLater⟩ := ih neverUp.2 later
      refine ⟨kept.trans keptLater, ?_⟩
      rw [longerLater, longer, List.filter_cons]
      split
      · rw [List.length_cons]
        omega
      · rfl

theorem foldlM_follow?_append {names : List String} (neverUp : ".." ∉ names) (tree : FileTree)
    (within above : List FileTree) :
    names.foldlM FileTree.follow? (tree :: within ++ above) =
      (names.foldlM FileTree.follow? (tree :: within)).map (· ++ above) := by
  induction names generalizing tree within with
  | nil => rfl
  | cons name rest ih =>
      rw [List.mem_cons, not_or] at neverUp
      rw [List.foldlM_cons, List.foldlM_cons, follow?_append (Ne.symm neverUp.1)]
      cases entered : FileTree.follow? (tree :: within) name with
      | none => rfl
      | some next =>
          have kept := (suffix_follow? (Ne.symm neverUp.1) entered).1
          cases next with
          | nil => exact absurd (List.suffix_nil.1 kept) (List.cons_ne_nil tree within)
          | cons first behind => exact ih neverUp.2 first behind

/-! ### Paths that stay below their folder -/

/-- Wherever a folder lies, the path leads on from it and not out of it. -/
structure StaysBelow (path : List Char) : Prop where
  joined : ∀ here folder, ∃ names, names ≠ [] ∧
    placeOf here (joinPath folder path) = names ++ placeOf here folder
  followed : ∀ (root : FileTree) (above reached : List FileTree),
    (pathNames path).foldlM FileTree.follow? (root :: above) = some reached →
      ∃ inner, inner ≠ [] ∧ reached = inner ++ root :: above

theorem staysBelow_of_neverClimbs {path : List Char} (relative : IsRelative path)
    (neverClimbs : NeverClimbs path) {name : String} (isName : name ∈ pathNames path)
    (on : leadsOn name = true) : StaysBelow path where
  joined here folder := by
    refine ⟨((pathNames path).filter leadsOn).reverse, ?_, ?_⟩
    · intro none
      have member : name ∈ (pathNames path).filter leadsOn := List.mem_filter.2 ⟨isName, on⟩
      rw [List.reverse_eq_nil_iff.1 none] at member
      cases member
    · rw [placeOf_joinPath relative, foldl_enter neverClimbs]
  followed root above reached found := by
    obtain ⟨⟨inner, whole⟩, longer⟩ := suffix_foldlM_follow? neverClimbs found
    refine ⟨inner, ?_, whole.symm⟩
    rintro rfl
    have counted : 0 < ((pathNames path).filter leadsOn).length :=
      List.length_pos_of_mem (List.mem_filter.2 ⟨isName, on⟩)
    rw [← whole, List.nil_append] at longer
    omega

theorem fileAt?_eq_of_neverClimbs {path : String} (nonempty : path ≠ "")
    (relative : IsRelative path.toList) (neverClimbs : NeverClimbs path.toList) (root : FileTree)
    (above : List FileTree) :
    root.fileAt? path =
      (((pathNames path.toList).foldlM FileTree.follow? (root :: above)).bind List.head?).bind
        FileTree.content? := by
  have alone := foldlM_follow?_append neverClimbs root [] above
  rw [List.singleton_append] at alone
  unfold FileTree.fileAt? FileTree.resolve?
  rw [if_neg (not_or.2 ⟨nonempty, relative⟩), alone]
  change ((List.foldlM FileTree.follow? [root] (pathNames path.toList)).bind List.head?).bind _ = _
  cases found : List.foldlM FileTree.follow? [root] (pathNames path.toList) with
  | none => rfl
  | some reached =>
      have kept := (suffix_foldlM_follow? neverClimbs found).1
      cases reached with
      | nil => exact absurd (List.suffix_nil.1 kept) (List.cons_ne_nil root [])
      | cons first behind => rfl

end ArtifactCatalog.Files
