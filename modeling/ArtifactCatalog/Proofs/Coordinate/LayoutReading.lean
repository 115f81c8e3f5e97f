/-
The grammar of layout paths. A normal path is read as a coordinate exactly when
it is a chain of folders, then artifact, version and a file named after both,
and the coordinate has the folders joined by dots as its group.
-/

import ArtifactCatalog.Coordinate.Layout
import ArtifactCatalog.Proofs.Text.Joining
import Mathlib.Data.List.DropRight

namespace ArtifactCatalog.Coordinate

/-! ### File names -/

def fileNameOf (artifact version : List Char) (classifier : Option (List Char))
    (extension : List Char) : List Char :=
  artifact ++ '-' :: version ++
    (match classifier with
      | some classifier => '-' :: classifier
      | none => []) ++
    '.' :: extension

theorem fileName_eq_fileNameOf (c : Coordinate) :
    c.fileName = fileNameOf c.artifact.toList c.version.toList
      (c.classifier.map String.toList) c.extension.toList := by
  unfold fileName fileNameOf
  cases c.classifier with
  | none => rfl
  | some classifier => rfl

theorem readFileName_eq_some_iff {artifact version file extension : List Char}
    {classifier : Option (List Char)} :
    readFileName artifact version file = some (classifier, extension) ↔
      file = fileNameOf artifact version classifier extension ∧
        ∀ text ∈ classifier, '.' ∉ text := by
  unfold readFileName fileNameOf
  constructor
  · intro read
    split at read
    · rename_i ending after
      cases read
      refine ⟨?_, fun text impossible => by cases impossible⟩
      rw [Text.afterStart?_eq_some_iff.1 after, List.append_nil]
    · rename_i rest after
      obtain ⟨⟨before, ending⟩, cut, same⟩ := Option.map_eq_some_iff.1 read
      cases same
      obtain ⟨split, free⟩ := Text.cutFirst_eq_some_iff.1 cut
      refine ⟨?_, fun text same => by cases same; exact free⟩
      rw [Text.afterStart?_eq_some_iff.1 after, split, List.append_assoc _ ('-' :: before)]
      rfl
    · cases read
  · rintro ⟨rfl, free⟩
    cases classifier with
    | none =>
        have after : Text.afterStart? (artifact ++ '-' :: version)
            (artifact ++ '-' :: version ++ [] ++ '.' :: extension) = some ('.' :: extension) :=
          Text.afterStart?_eq_some_iff.2 (by rw [List.append_nil])
        rw [after]
        rfl
    | some before =>
        have after : Text.afterStart? (artifact ++ '-' :: version)
            (artifact ++ '-' :: version ++ '-' :: before ++ '.' :: extension) =
              some ('-' :: (before ++ '.' :: extension)) :=
          Text.afterStart?_eq_some_iff.2 (by rw [List.append_assoc _ ('-' :: before)]; rfl)
        have cut : Text.cutFirst '.' (before ++ '.' :: extension) = some (before, extension) :=
          Text.cutFirst_eq_some_iff.2 ⟨rfl, free before rfl⟩
        rw [after]
        change (Text.cutFirst '.' (before ++ '.' :: extension)).map _ = _
        rw [cut]
        rfl

theorem isExtension_iff (extension : List Char) :
    isExtension extension = true ↔ extension ≠ [] ∧ '.' ∉ extension := by
  unfold isExtension
  simp

/-! ### Valid coordinates -/

/-- One character or more, each of which an identifier may hold. -/
def IsIdentifier (value : String) : Prop :=
  value ≠ "" ∧ ∀ c ∈ value.toList, isIdentifierChar c = true

theorem checkIdentifier_eq_ok_iff (label value : String) :
    checkIdentifier label value = .ok () ↔ IsIdentifier value := by
  unfold checkIdentifier IsIdentifier
  rw [← List.all_eq_true, ne_eq, ← String.isEmpty_iff]
  split
  · rename_i empty
    simp [empty]
  · rename_i nonempty
    split
    · rename_i allowed
      simp [nonempty, allowed]
    · rename_i stray
      simp [stray]

theorem check_eq_ok_iff (c : Coordinate) :
    c.check = .ok () ↔ IsIdentifier c.group ∧ IsIdentifier c.artifact ∧
      Text.allBlank c.version.toList = false := by
  rw [← checkIdentifier_eq_ok_iff "groupId", ← checkIdentifier_eq_ok_iff "artifactId"]
  unfold check
  cases checkIdentifier "groupId" c.group with
  | error fault => simp [bind, Except.bind]
  | ok _ =>
      cases checkIdentifier "artifactId" c.artifact with
      | error fault => simp [bind, Except.bind]
      | ok _ => cases Text.allBlank c.version.toList <;> simp [bind, Except.bind]

theorem isValid_iff_check_eq_ok (c : Coordinate) : c.isValid = true ↔ c.check = .ok () := by
  unfold isValid
  cases c.check with
  | error fault => simp [Except.toBool]
  | ok _ => simp [Except.toBool]

/-! ### Normal paths -/

theorem backslash_not_mem_normalPath (path : List Char) : '\\' ∉ normalPath path := by
  intro member
  exact Text.not_mem_replaceChar (by decide) path ((Text.stripWhile_infix _ _).subset member)

theorem normalPath_slash_cons (path : List Char) : normalPath ('/' :: path) = normalPath path := by
  unfold normalPath
  exact Text.stripWhile_cons_of_pos rfl _

theorem length_normalPath_le (path : List Char) : (normalPath path).length ≤ path.length := by
  unfold normalPath
  have shorter := (Text.stripWhile_infix (· == '/') (Text.replaceChar '\\' '/' path)).length_le
  have unchanged : (Text.replaceChar '\\' '/' path).length = path.length := List.length_map _
  omega

theorem normalPath_eq_self {path : List Char} (forward : '\\' ∉ path)
    (front : path.head? ≠ some '/') (back : path.getLast? ≠ some '/') : normalPath path = path := by
  unfold normalPath
  rw [Text.replaceChar_of_not_mem forward]
  apply Text.stripWhile_eq_self
  · intro c atFront
    rw [beq_eq_false_iff_ne]
    rintro rfl
    exact front atFront
  · intro c atBack
    rw [beq_eq_false_iff_ne]
    rintro rfl
    exact back atBack

/-! ### Paths -/

/-- A text is the path of a coordinate below the given folders. -/
structure FollowsLayout (folders : List (List Char)) (c : Coordinate) (text : List Char) :
    Prop where
  folders_ne_nil : folders ≠ []
  joined : text = ['/'].intercalate
    (folders ++ [c.artifact.toList, c.version.toList,
      fileNameOf c.artifact.toList c.version.toList (c.classifier.map String.toList)
        c.packaging.toList])
  slashFree : ∀ part ∈ folders ++ [c.artifact.toList, c.version.toList,
    fileNameOf c.artifact.toList c.version.toList (c.classifier.map String.toList)
      c.packaging.toList], '/' ∉ part
  group : c.group.toList = ['.'].intercalate folders
  classifier : ∀ text ∈ c.classifier, '.' ∉ text.toList
  packaging_ne_nil : c.packaging.toList ≠ []
  packaging : '.' ∉ c.packaging.toList
  valid : c.isValid = true

theorem exists_followsLayout {path : String} {c : Coordinate} (read : ofPath? path = some c) :
    ∃ folders, FollowsLayout folders c (normalPath path.toList) := by
  unfold ofPath? at read
  split at read
  · rename_i file version artifact parent ancestors parts
    have split : (normalPath path.toList).splitOn '/' =
        (parent :: ancestors).reverse ++ [artifact, version, file] := by
      rw [← List.reverse_reverse ((normalPath path.toList).splitOn '/'), parts]
      simp
    cases named : readFileName artifact version file with
    | none =>
        rw [named] at read
        cases read
    | some found =>
        obtain ⟨classifier, extension⟩ := found
        obtain ⟨fileIs, free⟩ := readFileName_eq_some_iff.1 named
        rw [named] at read
        dsimp only at read
        split at read
        · rename_i checked
          cases read
          obtain ⟨isExtension, valid⟩ := Bool.and_eq_true_iff.1 checked
          obtain ⟨extension_ne_nil, dotFree⟩ := (isExtension_iff extension).1 isExtension
          have classifierKept :
              (classifier.map String.ofList).map String.toList = classifier := by
            cases classifier with
            | none => rfl
            | some text => simp
          refine ⟨(parent :: ancestors).reverse, ?_, ?_, ?_, ?_, ?_, ?_, ?_, valid⟩
          · simp
          · simp only [String.toList_ofList]
            rw [classifierKept, ← fileIs, ← split, List.intercalate_splitOn]
          · simp only [String.toList_ofList]
            rw [classifierKept, ← fileIs, ← split]
            intro part isPart
            exact Text.not_mem_of_mem_splitOn isPart
          · exact String.toList_ofList
          · intro text same
            obtain ⟨known, isKnown, rfl⟩ := Option.map_eq_some_iff.1 same
            rw [String.toList_ofList]
            exact free known isKnown
          · rw [String.toList_ofList]
            exact extension_ne_nil
          · rw [String.toList_ofList]
            exact dotFree
        · cases read
  · cases read

theorem FollowsLayout.ofPath? {path : String} {c : Coordinate} {folders : List (List Char)}
    (follows : FollowsLayout folders c (normalPath path.toList)) : ofPath? path = some c := by
  have parts := List.splitOn_intercalate '/' follows.slashFree (by simp)
  rw [← follows.joined] at parts
  obtain ⟨parent, ancestors, reversed⟩ : ∃ parent ancestors, folders.reverse =
      parent :: ancestors := List.exists_cons_of_ne_nil (by simpa using follows.folders_ne_nil)
  have named : readFileName c.artifact.toList c.version.toList
      (fileNameOf c.artifact.toList c.version.toList (c.classifier.map String.toList)
        c.packaging.toList) =
      some (c.classifier.map String.toList, c.packaging.toList) := by
    refine readFileName_eq_some_iff.2 ⟨rfl, ?_⟩
    intro text same
    obtain ⟨known, isKnown, rfl⟩ := Option.map_eq_some_iff.1 same
    exact follows.classifier known isKnown
  have classifierKept : (c.classifier.map String.toList).map String.ofList = c.classifier := by
    cases c.classifier with
    | none => rfl
    | some text => simp
  have groupKept : String.ofList (['.'].intercalate (parent :: ancestors).reverse) = c.group := by
    rw [← reversed, List.reverse_reverse, ← follows.group, String.ofList_toList]
  have extension : isExtension c.packaging.toList = true :=
    (isExtension_iff _).2 ⟨follows.packaging_ne_nil, follows.packaging⟩
  unfold Coordinate.ofPath?
  rw [parts, List.reverse_append, reversed]
  simp only [List.reverse_cons, List.reverse_nil, List.nil_append, List.cons_append, named]
  rw [← List.reverse_cons]
  rw [groupKept, classifierKept, String.ofList_toList, String.ofList_toList,
    String.ofList_toList, extension]
  exact if_pos follows.valid

theorem ofPath?_eq_some_iff {path : String} {c : Coordinate} :
    ofPath? path = some c ↔ ∃ folders, FollowsLayout folders c (normalPath path.toList) := by
  constructor
  · exact exists_followsLayout
  · rintro ⟨folders, follows⟩
    exact follows.ofPath?

/-! ### Two paths of one coordinate -/

def groupFolders (text : List Char) : List (List Char) := (text.splitOn '/').rdrop 3

theorem FollowsLayout.groupFolders_eq {folders : List (List Char)} {c : Coordinate}
    {text : List Char} (follows : FollowsLayout folders c text) : groupFolders text = folders := by
  unfold groupFolders
  rw [follows.joined, List.splitOn_intercalate '/' follows.slashFree (by simp)]
  exact List.rdrop_append_length

theorem ofPath?_congr {path other : String}
    (same : normalPath path.toList = normalPath other.toList) : ofPath? path = ofPath? other := by
  unfold ofPath?
  rw [same]

/-- Where no folder of the group has a dot in its name, a coordinate is read from
one normal path only. -/
theorem normalPath_eq_of_ofPath? {path other : String} {c : Coordinate}
    (read : ofPath? path = some c) (readToo : ofPath? other = some c)
    (plain : ∀ folder ∈ groupFolders (normalPath path.toList), '.' ∉ folder)
    (plainToo : ∀ folder ∈ groupFolders (normalPath other.toList), '.' ∉ folder) :
    normalPath path.toList = normalPath other.toList := by
  obtain ⟨folders, follows⟩ := exists_followsLayout read
  obtain ⟨others, followsToo⟩ := exists_followsLayout readToo
  rw [follows.groupFolders_eq] at plain
  rw [followsToo.groupFolders_eq] at plainToo
  have sameFolders : folders = others :=
    Text.intercalate_injective plain plainToo follows.folders_ne_nil followsToo.folders_ne_nil
      (follows.group.symm.trans followsToo.group)
  rw [follows.joined, followsToo.joined, sameFolders]

end ArtifactCatalog.Coordinate
