/-
Coordinates that are read back from their layout path. Writing a path turns the
dots of the group into slashes, and reading it cuts at slashes, drops slashes at
the ends and cuts the file name at its first dot, so the parts may hold these
characters only where reading does not take them for a cut.
-/

import ArtifactCatalog.Proofs.Coordinate.LayoutReading
import ArtifactCatalog.Proofs.Text.Cutting

namespace ArtifactCatalog.Coordinate

/-! ### Written paths -/

def pathEnd (c : Coordinate) : List Char :=
  '/' :: (c.artifact.toList ++ '/' :: (c.version.toList ++ '/' :: c.fileName))

theorem toList_path (c : Coordinate) :
    c.path.toList = Text.replaceChar '.' '/' c.group.toList ++ c.pathEnd := by
  unfold path pathEnd
  rw [String.toList_ofList]
  simp only [List.append_assoc, List.cons_append]

theorem intercalate_folders (c : Coordinate) {folders : List (List Char)}
    (nonempty : folders ≠ []) :
    ['/'].intercalate (folders ++ [c.artifact.toList, c.version.toList, c.fileName]) =
      ['/'].intercalate folders ++ c.pathEnd := by
  rw [Text.intercalate_append nonempty (List.cons_ne_nil _ _), List.intercalate_cons_cons,
    List.intercalate_cons_cons, List.intercalate_singleton]
  unfold pathEnd
  simp only [List.append_assoc, List.cons_append, List.nil_append]

theorem exists_path_eq_append_extension (c : Coordinate) :
    ∃ front, c.path.toList = front ++ '.' :: c.extension.toList := by
  rw [toList_path]
  unfold pathEnd fileName
  simp only [← List.cons_append, ← List.append_assoc]
  exact ⟨_, rfl⟩

/-- The coordinate that a file at the layout path stands for: its packaging is
the extension. -/
def asStored (c : Coordinate) : Coordinate := { c with packaging := c.extension }

theorem fileName_asStored (c : Coordinate) :
    fileNameOf c.asStored.artifact.toList c.asStored.version.toList
      (c.asStored.classifier.map String.toList) c.asStored.packaging.toList = c.fileName :=
  c.fileName_eq_fileNameOf.symm

/-! ### Reading back -/

def FreeOf (marks : List Char) (text : String) : Prop := ∀ mark ∈ marks, mark ∉ text.toList

/-- What a coordinate has to satisfy to be read back from its layout path. -/
structure IsRecoverable (c : Coordinate) : Prop where
  valid : c.check = .ok ()
  group : c.group.toList.head? ≠ some '.'
  version : FreeOf ['/', '\\'] c.version
  classifier : ∀ classifier ∈ c.classifier, FreeOf ['.', '/', '\\'] classifier
  extension_ne_empty : c.extension ≠ ""
  extension : FreeOf ['.', '/', '\\'] c.extension

theorem mem_fileName_iff (c : Coordinate) (mark : Char) :
    mark ∈ c.fileName ↔ mark = '-' ∨ mark = '.' ∨ mark ∈ c.artifact.toList ∨
      mark ∈ c.version.toList ∨ (∃ classifier ∈ c.classifier, mark ∈ classifier.toList) ∨
        mark ∈ c.extension.toList := by
  unfold fileName
  cases c.classifier with
  | none =>
      simp only [List.append_nil, List.mem_append, List.mem_cons, Option.not_mem_none,
        false_and, exists_false, false_or, or_assoc, or_left_comm]
  | some classifier =>
      simp only [List.mem_append, List.mem_cons, Option.mem_def, Option.some.injEq,
        exists_eq_left', or_assoc, or_left_comm, or_self_left]

theorem IsIdentifier.freeOf {value : String} (identifier : IsIdentifier value) :
    FreeOf ['/', '\\'] value := by
  intro mark isMark member
  have allowed := identifier.2 mark member
  rcases List.mem_pair.1 isMark with rfl | rfl
  · exact absurd allowed (by decide)
  · exact absurd allowed (by decide)

theorem IsRecoverable.not_mem_fileName {c : Coordinate} (recoverable : c.IsRecoverable)
    {mark : Char} (isMark : mark ∈ ['/', '\\']) : mark ∉ c.fileName := by
  have identifiers := c.check_eq_ok_iff.1 recoverable.valid
  have alsoMark : mark ∈ ['.', '/', '\\'] := List.mem_cons_of_mem _ isMark
  rw [mem_fileName_iff]
  rintro (rfl | rfl | inArtifact | inVersion | ⟨classifier, isClassifier, inClassifier⟩ |
    inExtension)
  · simp at isMark
  · simp at isMark
  · exact identifiers.2.1.freeOf mark isMark inArtifact
  · exact recoverable.version mark isMark inVersion
  · exact recoverable.classifier classifier isClassifier mark alsoMark inClassifier
  · exact recoverable.extension mark alsoMark inExtension

theorem IsRecoverable.normalPath_path {c : Coordinate} (recoverable : c.IsRecoverable) :
    normalPath c.path.toList = c.path.toList := by
  have identifiers := c.check_eq_ok_iff.1 recoverable.valid
  have noBackslash : '\\' ∈ ['/', '\\'] := by decide
  have noSlash : '/' ∈ ['/', '\\'] := by decide
  apply normalPath_eq_self
  · rw [toList_path]
    unfold pathEnd Text.replaceChar
    simp only [List.mem_append, List.mem_cons, List.mem_map, not_or, not_exists, not_and]
    refine ⟨?_, by decide, identifiers.2.1.freeOf _ noBackslash, by decide,
      recoverable.version _ noBackslash, by decide, recoverable.not_mem_fileName noBackslash⟩
    intro c member replaced
    split at replaced
    · exact absurd replaced (by decide)
    · rw [replaced] at member
      exact identifiers.1.freeOf _ noBackslash member
  · rw [toList_path]
    cases group : c.group.toList with
    | nil => exact absurd (String.toList_eq_nil_iff.1 group) identifiers.1.1
    | cons first rest =>
        have notDot : first ≠ '.' := by
          rintro rfl
          exact recoverable.group (by rw [group]; rfl)
        have notSlash : first ≠ '/' := by
          rintro rfl
          exact identifiers.1.freeOf '/' noSlash (by rw [group]; exact List.mem_cons_self)
        unfold Text.replaceChar
        rw [List.map_cons, if_neg notDot, List.cons_append, List.head?_cons]
        exact fun same => notSlash (Option.some.inj same)
  · intro last
    obtain ⟨front, split⟩ := c.exists_path_eq_append_extension
    rw [split, List.getLast?_append_of_ne_nil _ (List.cons_ne_nil _ _)] at last
    rcases List.mem_cons.1 (List.mem_of_getLast? last) with impossible | inExtension
    · exact absurd impossible (by decide)
    · exact recoverable.extension '/' (by decide) inExtension

theorem IsRecoverable.ofPath?_path {c : Coordinate} (recoverable : c.IsRecoverable) :
    ofPath? c.path = some c.asStored := by
  have identifiers := c.check_eq_ok_iff.1 recoverable.valid
  have noSlash : '/' ∈ ['/', '\\'] := by decide
  have folders_ne_nil : c.group.toList.splitOn '.' ≠ [] := List.splitOn_ne_nil _ _
  have dotFree : ∀ folder ∈ c.group.toList.splitOn '.', '.' ∉ folder :=
    fun folder isFolder => Text.not_mem_of_mem_splitOn isFolder
  refine ofPath?_eq_some_iff.2 ⟨c.group.toList.splitOn '.', ?_⟩
  refine ⟨folders_ne_nil, ?_, ?_, ?_, ?_, ?_, ?_, ?_⟩
  · rw [recoverable.normalPath_path, toList_path, fileName_asStored]
    change _ = ['/'].intercalate (_ ++ [c.artifact.toList, c.version.toList, c.fileName])
    rw [intercalate_folders c folders_ne_nil, ← Text.replaceChar_intercalate dotFree,
      List.intercalate_splitOn]
  · rw [fileName_asStored]
    intro part isPart
    rcases List.mem_append.1 isPart with isFolder | behind
    · intro member
      have inGroup : '/' ∈ ['.'].intercalate (c.group.toList.splitOn '.') :=
        Text.mem_intercalate member isFolder
      rw [List.intercalate_splitOn] at inGroup
      exact identifiers.1.freeOf '/' noSlash inGroup
    · simp only [List.mem_cons, List.not_mem_nil, or_false] at behind
      rcases behind with rfl | rfl | rfl
      · exact identifiers.2.1.freeOf '/' noSlash
      · exact recoverable.version '/' noSlash
      · exact recoverable.not_mem_fileName noSlash
  · exact (List.intercalate_splitOn '.').symm
  · intro classifier isClassifier
    exact recoverable.classifier classifier isClassifier '.' List.mem_cons_self
  · intro empty
    exact recoverable.extension_ne_empty (String.toList_eq_nil_iff.1 empty)
  · exact recoverable.extension '.' List.mem_cons_self
  · exact c.isValid_iff_check_eq_ok.2 recoverable.valid

/-- Reading never restores a dot at the start of the group: its slash is dropped
from the path, and nothing else makes up for the missing character. -/
theorem head?_group_of_ofPath?_path {c : Coordinate} {folders : List (List Char)}
    (follows : FollowsLayout folders c.asStored (normalPath c.path.toList)) :
    c.group.toList.head? ≠ some '.' := by
  have whole : (normalPath c.path.toList).length = c.path.toList.length := by
    rw [follows.joined, fileName_asStored]
    change (['/'].intercalate
      (folders ++ [c.artifact.toList, c.version.toList, c.fileName])).length = _
    have group : c.group.toList = ['.'].intercalate folders := follows.group
    rw [intercalate_folders c follows.folders_ne_nil, toList_path, List.length_append,
      List.length_append, Text.length_intercalate_eq '/' '.' folders, ← group]
    unfold Text.replaceChar
    rw [List.length_map]
  intro dotFirst
  obtain ⟨rest, group⟩ := List.head?_eq_some_iff.1 dotFirst
  have slashFirst : c.path.toList = '/' :: (Text.replaceChar '.' '/' rest ++ c.pathEnd) := by
    rw [toList_path, group]
    rfl
  have shorter := length_normalPath_le (Text.replaceChar '.' '/' rest ++ c.pathEnd)
  rw [slashFirst, normalPath_slash_cons, List.length_cons] at whole
  omega

theorem isRecoverable_of_ofPath?_path {c : Coordinate}
    (read : ofPath? c.path = some c.asStored) : c.IsRecoverable := by
  obtain ⟨folders, follows⟩ := exists_followsLayout read
  have joined := follows.joined
  have slashFree := follows.slashFree
  rw [fileName_asStored] at joined slashFree
  have free : ∀ part ∈ folders ++ [c.artifact.toList, c.version.toList, c.fileName],
      ∀ mark ∈ ['/', '\\'], mark ∉ part := by
    intro part isPart mark isMark member
    rcases List.mem_pair.1 isMark with rfl | rfl
    · exact slashFree part isPart member
    · apply backslash_not_mem_normalPath c.path.toList
      rw [joined]
      exact Text.mem_intercalate member isPart
  have freeFile : ∀ mark ∈ ['/', '\\'], mark ∉ c.fileName := free c.fileName (by simp)
  have extended : ∀ text : String, (∀ mark ∈ text.toList, mark ∈ c.fileName) →
      '.' ∉ text.toList → FreeOf ['.', '/', '\\'] text := by
    intro text within dotFree mark isMark member
    rcases List.mem_cons.1 isMark with rfl | isCut
    · exact dotFree member
    · exact freeFile mark isCut (within mark member)
  refine ⟨c.isValid_iff_check_eq_ok.1 follows.valid, head?_group_of_ofPath?_path follows,
    free c.version.toList (by simp), ?_, ?_, ?_⟩
  · intro classifier isClassifier
    refine extended classifier ?_ (follows.classifier classifier isClassifier)
    intro mark member
    exact (mem_fileName_iff c mark).2
      (.inr (.inr (.inr (.inr (.inl ⟨classifier, isClassifier, member⟩)))))
  · rintro empty
    exact follows.packaging_ne_nil (String.toList_eq_nil_iff.2 empty)
  · refine extended c.extension ?_ follows.packaging
    intro mark member
    exact (mem_fileName_iff c mark).2 (.inr (.inr (.inr (.inr (.inr member)))))

/-- A coordinate is read back from its layout path, with its extension in place of
its packaging, exactly when it is valid, its group does not start with a dot, and
version, classifier and extension are free of the characters at which paths are cut. -/
theorem ofPath?_path_iff (c : Coordinate) :
    ofPath? c.path = some { c with packaging := c.extension } ↔ c.IsRecoverable :=
  ⟨isRecoverable_of_ofPath?_path, IsRecoverable.ofPath?_path⟩

/-! ### Coordinates that are read back as they are -/

theorem FollowsLayout.exists_eq_append_packaging {folders : List (List Char)} {c : Coordinate}
    {text : List Char} (follows : FollowsLayout folders c text) :
    ∃ front, text = front ++ '.' :: c.packaging.toList := by
  have parts : ∀ file : List Char, folders ++ [c.artifact.toList, c.version.toList, file] =
      (folders ++ [c.artifact.toList, c.version.toList]) ++ [file] := by
    intro file
    rw [List.append_assoc]
    rfl
  have joined := follows.joined
  rw [parts, Text.intercalate_append (List.append_ne_nil_of_left_ne_nil follows.folders_ne_nil _)
    (List.cons_ne_nil _ _), List.intercalate_singleton] at joined
  unfold fileNameOf at joined
  rw [← List.cons_append, ← List.append_assoc] at joined
  exact ⟨_, joined⟩

theorem exists_normalPath_eq_append_jar (front : List Char) :
    ∃ shorter, normalPath (front ++ '.' :: defaultPackaging.toList) =
      shorter ++ '.' :: defaultPackaging.toList := by
  unfold normalPath
  rw [Text.replaceChar_append]
  exact ⟨_, Text.stripWhile_around rfl _ _⟩

theorem extension_eq_packaging {c : Coordinate} (readsBack : ofPath? c.path = some c) :
    c.extension = c.packaging := by
  unfold extension
  by_cases asJar : c.packaging ∈ jarPackagings
  · exfalso
    obtain ⟨folders, follows⟩ := exists_followsLayout readsBack
    obtain ⟨front, read⟩ := follows.exists_eq_append_packaging
    obtain ⟨written, path⟩ := c.exists_path_eq_append_extension
    have stored : c.extension = defaultPackaging := if_pos asJar
    obtain ⟨shorter, normal⟩ := exists_normalPath_eq_append_jar written
    rw [← stored, ← path, read, stored] at normal
    have same := (Text.cutLast_unique follows.packaging (by decide) normal).2
    rw [String.toList_injective same] at asJar
    exact absurd asJar (by decide)
  · exact if_neg asJar

end ArtifactCatalog.Coordinate
