/-
The grammar of layout paths, apart from the reader. A path in normal form names
folders, an artifact, a version and a file after both; the file name is cut where
its known start ends, so that dots and dashes in artifact and version leave no
second reading.
-/

import ArtifactCatalog.Proofs.Coordinate.LayoutReading
import Mathlib.Data.Set.Subsingleton

namespace ArtifactCatalog.Coordinate

/-! ### Normal forms -/

/-- What is left of a path whose backslashes are read as slashes when the slashes
at its two ends are dropped. -/
structure IsNormalForm (path text : List Char) : Prop where
  around : ∃ front back, Text.replaceChar '\\' '/' path = front ++ text ++ back ∧
    (∀ c ∈ front, c = '/') ∧ ∀ c ∈ back, c = '/'
  front : text.head? ≠ some '/'
  back : text.getLast? ≠ some '/'

theorem isNormalForm_normalPath (path : List Char) : IsNormalForm path (normalPath path) where
  around := by
    obtain ⟨front, back, whole, slashFront, slashBack⟩ :=
      Text.exists_around_stripWhile (· == '/') (Text.replaceChar '\\' '/' path)
    exact ⟨front, back, whole, fun c member => beq_iff_eq.1 (slashFront c member),
      fun c member => beq_iff_eq.1 (slashBack c member)⟩
  front isFirst := by
    have notSlash := Text.eq_false_of_head?_stripWhile (p := (· == '/')) isFirst
    exact absurd notSlash (by decide)
  back isLast := by
    have notSlash := Text.eq_false_of_getLast?_stripWhile (p := (· == '/')) isLast
    exact absurd notSlash (by decide)

theorem isNormalForm_iff {path text : List Char} :
    IsNormalForm path text ↔ text = normalPath path := by
  constructor
  · intro normal
    obtain ⟨front, back, whole, slashFront, slashBack⟩ := normal.around
    have isStripped : Text.stripWhile (· == '/') text = text := by
      apply Text.stripWhile_eq_self
      · intro c isFirst
        rw [beq_eq_false_iff_ne]
        intro same
        exact normal.front (same ▸ isFirst)
      · intro c isLast
        rw [beq_eq_false_iff_ne]
        intro same
        exact normal.back (same ▸ isLast)
    unfold normalPath
    rw [whole, Text.stripWhile_around_text (fun c member => beq_iff_eq.2 (slashFront c member))
      (fun c member => beq_iff_eq.2 (slashBack c member)), isStripped]
  · intro same
    rw [same]
    exact isNormalForm_normalPath path

/-! ### Names and versions -/

/-- One ASCII letter, digit, underscore, dot or dash at least, and nothing else. -/
def IsName (text : List Char) : Prop :=
  text ≠ [] ∧ ∀ c ∈ text, c.isAlphanum = true ∨ c ∈ ['_', '.', '-']

theorem isIdentifierChar_iff (c : Char) :
    isIdentifierChar c = true ↔ c.isAlphanum = true ∨ c ∈ ['_', '.', '-'] := by
  have upper : Text.isAsciiUpper c = c.isUpper :=
    (Bool.decide_and (c.val ≥ 'A'.val) (c.val ≤ 'Z'.val)).symm
  have letterOrDigit : (Text.isAsciiLetter c || Text.isAsciiDigit c) = c.isAlphanum := by
    unfold Text.isAsciiLetter
    rw [upper]
    rfl
  unfold isIdentifierChar
  rw [letterOrDigit]
  simp only [Bool.or_eq_true, beq_iff_eq, List.mem_cons, List.not_mem_nil, or_false, or_assoc]

theorem isIdentifier_ofList_iff (text : List Char) :
    IsIdentifier (String.ofList text) ↔ IsName text := by
  unfold IsIdentifier IsName
  rw [String.toList_ofList, ne_eq, ← String.toList_eq_nil_iff, String.toList_ofList]
  simp only [isIdentifierChar_iff]

theorem allBlank_eq_false_iff (text : List Char) :
    Text.allBlank text = false ↔ ∃ c ∈ text, Text.isBlank c = false := by
  unfold Text.allBlank
  rw [List.all_eq_false]
  simp only [Bool.not_eq_true]

/-! ### Parts of a path -/

structure PathParts where
  folders : List (List Char)
  artifact : List Char
  version : List Char
  classifier : Option (List Char)
  extension : List Char
deriving DecidableEq

namespace PathParts

variable {parts other : PathParts} {path : String}

def file (parts : PathParts) : List Char :=
  fileNameOf parts.artifact parts.version parts.classifier parts.extension

def pieces (parts : PathParts) : List (List Char) :=
  parts.folders ++ [parts.artifact, parts.version, parts.file]

def text (parts : PathParts) : List Char := ['/'].intercalate parts.pieces

def coordinate (parts : PathParts) : Coordinate where
  group := String.ofList (['.'].intercalate parts.folders)
  artifact := String.ofList parts.artifact
  version := String.ofList parts.version
  classifier := parts.classifier.map String.ofList
  packaging := String.ofList parts.extension

structure IsReadingOf (parts : PathParts) (path : String) : Prop where
  normal : IsNormalForm path.toList parts.text
  folders_ne_nil : parts.folders ≠ []
  slashFree : ∀ part ∈ parts.folders ++ [parts.artifact, parts.version], '/' ∉ part
  classifier : ∀ text ∈ parts.classifier, '.' ∉ text ∧ '/' ∉ text
  extension_ne_nil : parts.extension ≠ []
  extension : '.' ∉ parts.extension ∧ '/' ∉ parts.extension
  group : IsName (['.'].intercalate parts.folders)
  artifact : IsName parts.artifact
  version : ∃ c ∈ parts.version, Text.isBlank c = false

theorem map_toList_classifier (parts : PathParts) :
    parts.coordinate.classifier.map String.toList = parts.classifier := by
  unfold coordinate
  cases parts.classifier with
  | none => rfl
  | some text => exact congrArg some String.toList_ofList

theorem isValid_coordinate_iff (parts : PathParts) :
    parts.coordinate.isValid = true ↔ IsName (['.'].intercalate parts.folders) ∧
      IsName parts.artifact ∧ ∃ c ∈ parts.version, Text.isBlank c = false := by
  rw [isValid_iff_check_eq_ok, check_eq_ok_iff]
  unfold coordinate
  dsimp only
  rw [isIdentifier_ofList_iff, isIdentifier_ofList_iff, String.toList_ofList,
    allBlank_eq_false_iff]

theorem pieces_ne_nil (parts : PathParts) : parts.pieces ≠ [] :=
  List.append_ne_nil_of_right_ne_nil _ (List.cons_ne_nil _ _)

theorem pieces_coordinate (parts : PathParts) :
    parts.folders ++ [parts.coordinate.artifact.toList, parts.coordinate.version.toList,
      fileNameOf parts.coordinate.artifact.toList parts.coordinate.version.toList
        (parts.coordinate.classifier.map String.toList) parts.coordinate.packaging.toList] =
      parts.pieces := by
  rw [map_toList_classifier]
  unfold coordinate pieces file
  simp only [String.toList_ofList]

theorem slash_not_mem_file_iff (parts : PathParts) :
    '/' ∉ parts.file ↔ '/' ∉ parts.artifact ∧ '/' ∉ parts.version ∧
      (∀ text ∈ parts.classifier, '/' ∉ text) ∧ '/' ∉ parts.extension := by
  unfold file fileNameOf
  cases parts.classifier with
  | none => simp
  | some text => simp

theorem IsReadingOf.slash_not_mem_pieces (reading : parts.IsReadingOf path) :
    ∀ piece ∈ parts.pieces, '/' ∉ piece := by
  have artifact := reading.slashFree parts.artifact (by simp)
  have version := reading.slashFree parts.version (by simp)
  have file := parts.slash_not_mem_file_iff.2
    ⟨artifact, version, fun text isText => (reading.classifier text isText).2,
      reading.extension.2⟩
  intro piece isPiece
  rcases List.mem_append.1 isPiece with isFolder | behind
  · exact reading.slashFree piece (List.mem_append_left _ isFolder)
  · simp only [List.mem_cons, List.not_mem_nil, or_false] at behind
    rcases behind with same | same | same
    · rw [same]
      exact artifact
    · rw [same]
      exact version
    · rw [same]
      exact file

theorem IsReadingOf.followsLayout (reading : parts.IsReadingOf path) :
    FollowsLayout parts.folders parts.coordinate (normalPath path.toList) where
  folders_ne_nil := reading.folders_ne_nil
  joined := by
    rw [pieces_coordinate, ← isNormalForm_iff.1 reading.normal]
    rfl
  slashFree := by
    rw [pieces_coordinate]
    exact reading.slash_not_mem_pieces
  group := String.toList_ofList
  classifier text same := by
    obtain ⟨known, isKnown, rfl⟩ := Option.map_eq_some_iff.1 same
    rw [String.toList_ofList]
    exact (reading.classifier known isKnown).1
  packaging_ne_nil empty := reading.extension_ne_nil (String.toList_ofList.symm.trans empty)
  packaging := by
    unfold coordinate
    rw [String.toList_ofList]
    exact reading.extension.1
  valid := parts.isValid_coordinate_iff.2 ⟨reading.group, reading.artifact, reading.version⟩

theorem isReadingOf_of_followsLayout
    (follows : FollowsLayout parts.folders parts.coordinate (normalPath path.toList)) :
    parts.IsReadingOf path := by
  have joined := follows.joined
  have slashFree := follows.slashFree
  rw [pieces_coordinate] at joined slashFree
  have file := parts.slash_not_mem_file_iff.1 (slashFree parts.file (by simp [pieces]))
  obtain ⟨group, artifact, version⟩ := parts.isValid_coordinate_iff.1 follows.valid
  refine ⟨isNormalForm_iff.2 joined.symm, follows.folders_ne_nil, ?_, ?_, ?_, ?_, group, artifact,
    version⟩
  · intro part isPart
    apply slashFree
    unfold pieces
    simp only [List.mem_append, List.mem_cons, List.not_mem_nil, or_false] at isPart ⊢
    tauto
  · intro text isText
    have dotFree := follows.classifier (String.ofList text) (Option.mem_map_of_mem _ isText)
    rw [String.toList_ofList] at dotFree
    exact ⟨dotFree, file.2.2.1 text isText⟩
  · intro empty
    exact follows.packaging_ne_nil (String.toList_ofList.trans empty)
  · have dotFree := follows.packaging
    unfold coordinate at dotFree
    rw [String.toList_ofList] at dotFree
    exact ⟨dotFree, file.2.2.2⟩

/-! ### One reading -/

theorem fileNameOf_injective {artifact version extension otherExtension : List Char}
    {classifier otherClassifier : Option (List Char)}
    (free : ∀ text ∈ classifier, '.' ∉ text) (freeToo : ∀ text ∈ otherClassifier, '.' ∉ text)
    (same : fileNameOf artifact version classifier extension =
      fileNameOf artifact version otherClassifier otherExtension) :
    classifier = otherClassifier ∧ extension = otherExtension := by
  have read : readFileName artifact version
      (fileNameOf artifact version classifier extension) = some (classifier, extension) :=
    readFileName_eq_some_iff.2 ⟨rfl, free⟩
  rw [readFileName_eq_some_iff.2 ⟨same, freeToo⟩, Option.some.injEq, Prod.mk.injEq] at read
  exact ⟨read.1.symm, read.2.symm⟩

theorem IsReadingOf.splitOn_normalPath (reading : parts.IsReadingOf path) :
    (normalPath path.toList).splitOn '/' = parts.pieces := by
  rw [← isNormalForm_iff.1 reading.normal]
  exact List.splitOn_intercalate '/' reading.slash_not_mem_pieces parts.pieces_ne_nil

theorem IsReadingOf.eq (reading : parts.IsReadingOf path) (readingToo : other.IsReadingOf path) :
    parts = other := by
  have samePieces : parts.pieces = other.pieces :=
    reading.splitOn_normalPath.symm.trans readingToo.splitOn_normalPath
  have dotFree := fun text isText => (reading.classifier text isText).1
  have dotFreeToo := fun text isText => (readingToo.classifier text isText).1
  obtain ⟨folders, artifact, version, classifier, extension⟩ := parts
  obtain ⟨otherFolders, otherArtifact, otherVersion, otherClassifier, otherExtension⟩ := other
  obtain ⟨sameFolders, sameEnds⟩ := List.append_inj' samePieces rfl
  simp only [List.cons.injEq, and_true] at sameEnds
  obtain ⟨sameArtifact, sameVersion, sameFile⟩ := sameEnds
  dsimp only at sameFolders sameArtifact sameVersion
  subst sameFolders sameArtifact sameVersion
  obtain ⟨sameClassifier, sameExtension⟩ := fileNameOf_injective dotFree dotFreeToo sameFile
  dsimp only at sameClassifier sameExtension
  rw [sameClassifier, sameExtension]

/-! ### The reader -/

def ofCoordinate (folders : List (List Char)) (c : Coordinate) : PathParts where
  folders := folders
  artifact := c.artifact.toList
  version := c.version.toList
  classifier := c.classifier.map String.toList
  extension := c.packaging.toList

theorem coordinate_ofCoordinate {folders : List (List Char)} {c : Coordinate}
    (group : c.group.toList = ['.'].intercalate folders) :
    (ofCoordinate folders c).coordinate = c := by
  obtain ⟨name, artifact, version, classifier, packaging⟩ := c
  unfold ofCoordinate coordinate
  dsimp only at group ⊢
  rw [← group]
  cases classifier with
  | none => simp
  | some text => simp

theorem ofPath?_eq_some_iff_isReadingOf {c : Coordinate} :
    ofPath? path = some c ↔ ∃ parts : PathParts, parts.IsReadingOf path ∧ parts.coordinate = c := by
  constructor
  · intro read
    obtain ⟨folders, follows⟩ := exists_followsLayout read
    have restored := coordinate_ofCoordinate follows.group
    refine ⟨ofCoordinate folders c, isReadingOf_of_followsLayout ?_, restored⟩
    rw [restored]
    exact follows
  · intro read
    obtain ⟨parts, reading, same⟩ := read
    rw [← same]
    exact reading.followsLayout.ofPath?

end PathParts

/-- A path is read exactly if the grammar has a reading of it, as the coordinate that this
reading gives, and the grammar has at most one reading of any path. -/
theorem ofPath?_acceptsGrammar (path : String) :
    (∀ c, ofPath? path = some c ↔
      ∃ parts : PathParts, parts.IsReadingOf path ∧ parts.coordinate = c) ∧
    (ofPath? path = none ↔ ∀ parts : PathParts, ¬ parts.IsReadingOf path) ∧
    {parts : PathParts | parts.IsReadingOf path}.Subsingleton := by
  refine ⟨fun c => PathParts.ofPath?_eq_some_iff_isReadingOf, ?_,
    fun parts reading other readingToo => reading.eq readingToo⟩
  rw [Option.eq_none_iff_forall_ne_some]
  constructor
  · intro unread parts reading
    exact unread _ reading.followsLayout.ofPath?
  · intro noReading c read
    obtain ⟨parts, reading, _same⟩ := PathParts.ofPath?_eq_some_iff_isReadingOf.1 read
    exact noReading parts reading

example : ofPath? "\\org\\example//lib-x/1.0-rc.1/lib-x-1.0-rc.1-a-b.jar/" =
    some { group := "org.example.", artifact := "lib-x", version := "1.0-rc.1"
           classifier := some "a-b" } := by decide

end ArtifactCatalog.Coordinate
