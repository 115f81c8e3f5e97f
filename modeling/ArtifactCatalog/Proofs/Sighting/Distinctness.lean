/-
When two files of one repository are sighted as the same artifact. Backslashes
in names count as marks between names, so such files can meet at one layout
path; the store then keeps one row for both.
-/

import ArtifactCatalog.Proofs.Coordinate.LayoutReading
import ArtifactCatalog.Proofs.Files.Walk
import ArtifactCatalog.Proofs.Holding.Recording
import ArtifactCatalog.Sighting

namespace ArtifactCatalog.Sighting

open Files

variable {policy : IndexingPolicy} {repository : String} {root : FileTree}

/-! ### Keys -/

def key (s : Sighting) : HoldingKey where
  repository := s.repository
  group := s.coordinate.group
  artifact := s.coordinate.artifact
  version := s.coordinate.version
  classifier := s.coordinate.classifier
  packaging := s.coordinate.packaging

theorem key_eq_iff {a b : Sighting} :
    a.key = b.key ↔ a.repository = b.repository ∧ a.coordinate = b.coordinate := by
  cases a with
  | mk repository coordinate fingerprint =>
      cases b with
      | mk otherRepository otherCoordinate otherFingerprint =>
          cases coordinate
          cases otherCoordinate
          simp [key]

theorem map_key_zipWith_holding {sightings : List Sighting} {gathered : List Time.Instant}
    (timed : gathered.length = sightings.length) :
    (List.zipWith holding sightings gathered).map Holding.key = sightings.map key := by
  induction sightings generalizing gathered with
  | nil => rfl
  | cons sighting rest ih =>
      cases gathered with
      | nil => cases timed
      | cons instant later =>
          rw [List.zipWith_cons_cons, List.map_cons, List.map_cons, ih (Nat.succ.inj timed)]
          rfl

/-! ### Sighted files -/

def sightedFiles (policy : IndexingPolicy) (repository : String) (root : FileTree) :
    List (List String × Sighting) :=
  root.walk.filterMap fun (path, file) =>
    (ofFile? policy repository path file).map (path, ·)

theorem map_snd_sightedFiles (policy : IndexingPolicy) (repository : String) (root : FileTree) :
    (sightedFiles policy repository root).map Prod.snd = scan policy repository root := by
  unfold sightedFiles scan
  rw [List.map_filterMap]
  apply List.filterMap_congr
  rintro ⟨path, file⟩ _found
  dsimp only
  cases ofFile? policy repository path file with
  | none => rfl
  | some sighting => rfl

theorem mem_sightedFiles_iff {path : List String} {sighting : Sighting} :
    (path, sighting) ∈ sightedFiles policy repository root ↔
      ∃ file, (path, file) ∈ root.walk ∧ ofFile? policy repository path file = some sighting := by
  unfold sightedFiles
  rw [List.mem_filterMap]
  constructor
  · rintro ⟨⟨_, file⟩, found, same⟩
    obtain ⟨_, sighted, pair⟩ := Option.map_eq_some_iff.1 same
    cases pair
    exact ⟨file, found, sighted⟩
  · rintro ⟨file, found, sighted⟩
    exact ⟨(path, file), found, Option.map_eq_some_iff.2 ⟨sighting, sighted, rfl⟩⟩

theorem pairwise_sightedFiles {r : List String → List String → Prop}
    (walked : root.walk.Pairwise fun a b => r a.1 b.1) :
    (sightedFiles policy repository root).Pairwise fun a b => r a.1 b.1 := by
  unfold sightedFiles
  rw [List.pairwise_filterMap]
  refine walked.imp ?_
  rintro ⟨path, file⟩ ⟨other, otherFile⟩ related _ sighted _ sightedToo
  obtain ⟨_, _, rfl⟩ := Option.map_eq_some_iff.1 sighted
  obtain ⟨_, _, rfl⟩ := Option.map_eq_some_iff.1 sightedToo
  exact related

theorem ofFile?_eq_some {path : List String} {file : StoredFile} {sighting : Sighting}
    (sighted : ofFile? policy repository path file = some sighting) :
    sighting.repository = repository ∧
      Coordinate.ofPath? (repositoryPath path) = some sighting.coordinate := by
  unfold ofFile? at sighted
  obtain ⟨coordinate, read, covered⟩ := Option.bind_eq_some_iff.1 sighted
  obtain ⟨fingerprint, _taken, whole⟩ := Option.bind_eq_some_iff.1 covered
  cases whole
  exact ⟨rfl, read⟩

structure Sighted (repository : String) (root : FileTree) (path : List String)
    (sighting : Sighting) : Prop where
  found : path ∈ root.walk.map Prod.fst
  inRepository : sighting.repository = repository
  read : Coordinate.ofPath? (repositoryPath path) = some sighting.coordinate

theorem sighted_of_mem {path : List String} {sighting : Sighting}
    (member : (path, sighting) ∈ sightedFiles policy repository root) :
    Sighted repository root path sighting := by
  obtain ⟨file, found, sighted⟩ := mem_sightedFiles_iff.1 member
  obtain ⟨inRepository, read⟩ := ofFile?_eq_some sighted
  exact ⟨List.mem_map_of_mem found, inRepository, read⟩

theorem path_ne_nil_of_ofPath? {path : List String} {c : Coordinate}
    (read : Coordinate.ofPath? (repositoryPath path) = some c) : path ≠ [] := by
  rintro rfl
  have refused : Coordinate.ofPath? (repositoryPath []) = none := by decide
  rw [refused] at read
  cases read

theorem Sighted.path_ne_nil {path : List String} {sighting : Sighting}
    (sighted : Sighted repository root path sighting) : path ≠ [] :=
  path_ne_nil_of_ofPath? sighted.read

theorem Sighted.isFileName {path : List String} {sighting : Sighting}
    (sighted : Sighted repository root path sighting) (wellNamed : root.WellNamed) :
    ∀ name ∈ path, IsFileName name := by
  obtain ⟨⟨_, file⟩, found, rfl⟩ := List.mem_map.1 sighted.found
  exact wellNamed.isFileName_of_mem_walk found

theorem nodup_sightedPaths (wellNamed : root.WellNamed) :
    ((sightedFiles policy repository root).map Prod.fst).Nodup :=
  List.pairwise_map.2 (pairwise_sightedFiles (List.pairwise_map.1 wellNamed.nodup_paths))

/-- The normal path at which a file is looked for in the layout. -/
def layoutPath (path : List String) : List Char :=
  Coordinate.normalPath (repositoryPath path).toList

/-- No folder of the group has a dot in its name. -/
def HasPlainGroup (path : List String) : Prop :=
  ∀ folder ∈ Coordinate.groupFolders (layoutPath path), '.' ∉ folder

instance : DecidablePred HasPlainGroup := fun path =>
  inferInstanceAs (Decidable (∀ folder ∈ Coordinate.groupFolders (layoutPath path), '.' ∉ folder))

theorem Sighted.key_eq_iff {path other : List String} {sighting otherSighting : Sighting}
    (sighted : Sighted repository root path sighting)
    (sightedToo : Sighted repository root other otherSighting) (plain : HasPlainGroup path)
    (plainToo : HasPlainGroup other) :
    sighting.key = otherSighting.key ↔ layoutPath path = layoutPath other := by
  rw [Sighting.key_eq_iff, sighted.inRepository, sightedToo.inRepository]
  constructor
  · rintro ⟨_sameRepository, same⟩
    exact Coordinate.normalPath_eq_of_ofPath? (same ▸ sighted.read) sightedToo.read plain plainToo
  · intro same
    have read := sighted.read
    rw [Coordinate.ofPath?_congr same, sightedToo.read] at read
    exact ⟨rfl, (Option.some.inj read).symm⟩

/-! ### Names without backslashes -/

def HasForwardNames (path : List String) : Prop := ∀ name ∈ path, '\\' ∉ name.toList

instance : DecidablePred HasForwardNames := fun path =>
  inferInstanceAs (Decidable (∀ name ∈ path, '\\' ∉ name.toList))

theorem HasForwardNames.backslash_not_mem {path : List String} (forward : HasForwardNames path) :
    '\\' ∉ ['/'].intercalate (path.map String.toList) := by
  intro member
  rcases Text.eq_or_mem_of_mem_intercalate member with isSlash | ⟨part, isPart, within⟩
  · exact absurd isSlash (by decide)
  · obtain ⟨name, isName, rfl⟩ := List.mem_map.1 isPart
    exact forward name isName within

theorem HasForwardNames.toList_repositoryPath {path : List String}
    (forward : HasForwardNames path) :
    (repositoryPath path).toList = ['/'].intercalate (path.map String.toList) := by
  unfold repositoryPath
  rw [String.toList_ofList, String.toList_intercalate]
  exact Text.replaceChar_of_not_mem forward.backslash_not_mem

theorem layoutPath_eq_intercalate {path : List String} (named : ∀ name ∈ path, IsFileName name)
    (forward : HasForwardNames path) :
    layoutPath path = ['/'].intercalate (path.map String.toList) := by
  have nonempty : ∀ name, IsFileName name → name.toList ≠ [] := by
    intro name isName empty
    exact isName.1 (String.toList_eq_nil_iff.1 empty)
  unfold layoutPath
  rw [forward.toList_repositoryPath]
  apply Coordinate.normalPath_eq_self forward.backslash_not_mem
  · cases path with
    | nil => exact Option.some_ne_none '/' ∘ Eq.symm
    | cons name rest =>
        have isName := named name List.mem_cons_self
        rw [List.map_cons, Text.head?_intercalate (nonempty name isName)]
        exact fun atFront => isName.2 (List.mem_of_mem_head? atFront)
  · rcases path.eq_nil_or_concat' with rfl | ⟨front, name, rfl⟩
    · exact Option.some_ne_none '/' ∘ Eq.symm
    · have isName := named name (List.mem_append_right front List.mem_cons_self)
      rw [List.map_append, List.map_singleton, Text.getLast?_intercalate (nonempty name isName)]
      exact fun atBack => isName.2 (List.mem_of_mem_getLast? atBack)

theorem slash_not_mem_of_isFileName {path : List String} (named : ∀ name ∈ path, IsFileName name) :
    ∀ part ∈ path.map String.toList, '/' ∉ part := by
  intro part isPart
  obtain ⟨name, isName, rfl⟩ := List.mem_map.1 isPart
  exact (named name isName).2

theorem layoutPath_injective {path other : List String} (nonempty : path ≠ [])
    (nonemptyToo : other ≠ []) (named : ∀ name ∈ path, IsFileName name)
    (namedToo : ∀ name ∈ other, IsFileName name) (forward : HasForwardNames path)
    (forwardToo : HasForwardNames other)
    (same : layoutPath path = layoutPath other) : path = other := by
  rw [layoutPath_eq_intercalate named forward, layoutPath_eq_intercalate namedToo forwardToo] at same
  have sameParts : path.map String.toList = other.map String.toList :=
    Text.intercalate_injective (slash_not_mem_of_isFileName named)
      (slash_not_mem_of_isFileName namedToo)
      (by simpa using nonempty) (by simpa using nonemptyToo) same
  exact List.map_injective_iff.2 (fun _ _ => String.toList_injective) sameParts

theorem nodup_keys (wellNamed : root.WellNamed)
    (plain : ∀ found ∈ sightedFiles policy repository root, HasPlainGroup found.1)
    (forward : ∀ found ∈ sightedFiles policy repository root, HasForwardNames found.1) :
    ((scan policy repository root).map key).Nodup := by
  rw [← map_snd_sightedFiles, List.map_map]
  apply List.pairwise_map.2
  have distinctPaths : (sightedFiles policy repository root).Pairwise fun a b => a.1 ≠ b.1 :=
    List.pairwise_map.1 (nodup_sightedPaths wellNamed)
  refine distinctPaths.imp_of_mem ?_
  intro a b isFound isFoundToo differ sameKey
  have sighted := sighted_of_mem isFound
  have sightedToo := sighted_of_mem isFoundToo
  refine differ (layoutPath_injective sighted.path_ne_nil sightedToo.path_ne_nil
    (sighted.isFileName wellNamed) (sightedToo.isFileName wellNamed) (forward a isFound)
    (forward b isFoundToo) ?_)
  exact (sighted.key_eq_iff sightedToo (plain a isFound) (plain b isFoundToo)).1 sameKey

/-! ### Rows on record -/

/-- The rows in an empty store after all sightings were recorded in it. -/
def rowsOnRecord (sightings : List Sighting) (gathered : List Time.Instant) : List Holding :=
  (({} : HoldingStore).recordAll (List.zipWith holding sightings gathered)).rows

theorem map_key_rowsOnRecord {sightings : List Sighting} {gathered : List Time.Instant}
    (timed : gathered.length = sightings.length) :
    (rowsOnRecord sightings gathered).map Holding.key = (sightings.map key).dedup := by
  unfold rowsOnRecord
  rw [HoldingStore.rows_recordAll_empty, Holding.map_key_latest, map_key_zipWith_holding timed]

theorem rowsOnRecord_eq_zipWith {sightings : List Sighting} {gathered : List Time.Instant}
    (timed : gathered.length = sightings.length) (distinct : (sightings.map key).Nodup) :
    rowsOnRecord sightings gathered = List.zipWith holding sightings gathered := by
  unfold rowsOnRecord
  rw [HoldingStore.rows_recordAll_empty]
  apply Holding.latest_eq_self
  rw [map_key_zipWith_holding timed]
  exact distinct

theorem length_dedup_map_eq {α β γ : Type} [DecidableEq β] [DecidableEq γ] {f : α → β}
    {g : α → γ} {items : List α}
    (alike : ∀ a ∈ items, ∀ b ∈ items, f a = f b ↔ g a = g b) :
    (items.map f).dedup.length = (items.map g).dedup.length := by
  induction items with
  | nil => rfl
  | cons item rest ih =>
      have below := ih fun a isItem b isItemToo =>
        alike a (List.mem_cons_of_mem item isItem) b (List.mem_cons_of_mem item isItemToo)
      have together : f item ∈ rest.map f ↔ g item ∈ rest.map g := by
        simp only [List.mem_map]
        refine exists_congr fun other => and_congr_right fun isOther => ?_
        exact alike other (List.mem_cons_of_mem item isOther) item List.mem_cons_self
      rw [List.map_cons, List.map_cons]
      by_cases known : f item ∈ rest.map f
      · rw [List.dedup_cons_of_mem known, List.dedup_cons_of_mem (together.1 known), below]
      · rw [List.dedup_cons_of_notMem known,
          List.dedup_cons_of_notMem fun knownToo => known (together.2 knownToo),
          List.length_cons, List.length_cons, below]

/-! ### Repositories of two files -/

/-- An archive without entries: its end record alone. -/
def bareArchive : StoredFile where
  bytes := [0x50, 0x4b, 0x05, 0x06] ++ List.replicate 18 0
  modified := .epoch

def twoArchives (path other : List String) : FileTree :=
  (FileTree.empty.store bareArchive path).store bareArchive other

theorem wellNamed_twoArchives {path other : List String} (named : ∀ name ∈ path, IsFileName name)
    (namedToo : ∀ name ∈ other, IsFileName name) : (twoArchives path other).WellNamed :=
  .store namedToo (.store named FileTree.wellNamed_empty)

theorem walk_twoArchives_perm {name otherName : String} (differ : otherName ≠ name)
    (rest otherRest : List String) :
    (twoArchives (name :: rest) (otherName :: otherRest)).walk.Perm
      [(otherName :: otherRest, bareArchive), (name :: rest, bareArchive)] := by
  have new : [(name, FileTree.empty.store bareArchive rest)].lookup otherName = none :=
    List.lookup_eq_none_iff.2 (by simpa using differ)
  refine (FileTree.walk_store_perm new bareArchive otherRest).trans ?_
  change List.Perm (_ :: (FileTree.empty.store bareArchive (name :: rest)).walk) _
  rw [FileTree.walk_store_empty]

theorem mem_paths_of_mem_sightedFiles {files : List (List String × StoredFile)}
    (walked : root.walk.Perm files) {found : List String × Sighting}
    (isFound : found ∈ sightedFiles policy repository root) : found.1 ∈ files.map Prod.fst :=
  (walked.map Prod.fst).subset (sighted_of_mem isFound).found

theorem scan_perm {files : List (List String × StoredFile)} (walked : root.walk.Perm files)
    (policy : IndexingPolicy) (repository : String) :
    (scan policy repository root).Perm
      (files.filterMap fun (path, file) => ofFile? policy repository path file) :=
  walked.filterMap _

def releasedTree : FileTree :=
  twoArchives ["org", "lib", "1.0", "lib-1.0.jar"] ["com", "tool", "2.0", "tool-2.0-sources.jar"]

theorem walk_releasedTree_perm : releasedTree.walk.Perm
    [(["com", "tool", "2.0", "tool-2.0-sources.jar"], bareArchive),
      (["org", "lib", "1.0", "lib-1.0.jar"], bareArchive)] :=
  walk_twoArchives_perm (by decide) _ _

/-- A release, and a file whose name is the path of the release with backslashes. -/
def shadowedTree : FileTree :=
  twoArchives ["org", "lib", "1.0", "lib-1.0.jar"] ["org\\lib\\1.0\\lib-1.0.jar"]

def dottedTree : FileTree :=
  twoArchives ["org", "util", "lib", "1.0", "lib-1.0.jar"] ["org.util", "lib", "1.0", "lib-1.0.jar"]

/-- A tree whose two files are both sighted, but leave one row. -/
structure LosesRow (root : FileTree) : Prop where
  wellNamed : root.WellNamed
  length_scan : (scan {} "internal" root).length = 2
  not_nodup_keys : ¬ ((scan {} "internal" root).map key).Nodup
  length_rows : ∀ gathered : List Time.Instant, gathered.length = 2 →
    (rowsOnRecord (scan {} "internal" root) gathered).length = 1

theorem losesRow_of_perm {files : List (List String × StoredFile)} (shared : HoldingKey)
    (wellNamed : root.WellNamed) (walked : root.walk.Perm files)
    (meet : (files.filterMap fun (path, file) => ofFile? {} "internal" path file).map key =
      [shared, shared]) : LosesRow root := by
  have keys : ((scan {} "internal" root).map key).Perm [shared, shared] := by
    rw [← meet]
    exact (scan_perm walked {} "internal").map key
  have both : (scan {} "internal" root).length = 2 := by
    rw [← List.length_map key, keys.length_eq]
    rfl
  refine ⟨wellNamed, both, ?_, ?_⟩
  · rw [keys.nodup_iff]
    exact fun distinct => (List.nodup_cons.1 distinct).1 List.mem_cons_self
  · intro gathered timed
    rw [← List.length_map Holding.key, map_key_rowsOnRecord (timed.trans both.symm),
      keys.dedup.length_eq, List.dedup_cons_of_mem List.mem_cons_self]
    rfl

/-- A scan leaves one row for each key. Sightings share a key exactly where their files
meet at one layout path, so no row is lost where no name holds a backslash. -/
theorem rowsOnRecord_scan (wellNamed : root.WellNamed) (gathered : List Time.Instant)
    (timed : gathered.length = (scan policy repository root).length) :
    (rowsOnRecord (scan policy repository root) gathered).map Holding.key =
      ((scan policy repository root).map key).dedup ∧
    (∀ a ∈ sightedFiles policy repository root, ∀ b ∈ sightedFiles policy repository root,
      HasPlainGroup a.1 → HasPlainGroup b.1 →
        (a.2.key = b.2.key ↔ layoutPath a.1 = layoutPath b.1)) ∧
    ((∀ found ∈ sightedFiles policy repository root, HasPlainGroup found.1) →
      (rowsOnRecord (scan policy repository root) gathered).length =
        ((sightedFiles policy repository root).map (layoutPath ·.1)).dedup.length ∧
      ((∀ found ∈ sightedFiles policy repository root, HasForwardNames found.1) →
        ((scan policy repository root).map key).Nodup ∧
        rowsOnRecord (scan policy repository root) gathered =
          List.zipWith holding (scan policy repository root) gathered ∧
        (rowsOnRecord (scan policy repository root) gathered).length =
          (sightedFiles policy repository root).length)) := by
  have alike : ∀ a ∈ sightedFiles policy repository root,
      ∀ b ∈ sightedFiles policy repository root, HasPlainGroup a.1 → HasPlainGroup b.1 →
        (a.2.key = b.2.key ↔ layoutPath a.1 = layoutPath b.1) := by
    intro a isFound b isFoundToo plain plainToo
    exact (sighted_of_mem isFound).key_eq_iff (sighted_of_mem isFoundToo) plain plainToo
  refine ⟨map_key_rowsOnRecord timed, alike, fun plain => ⟨?_, fun forward => ?_⟩⟩
  · rw [← List.length_map Holding.key, map_key_rowsOnRecord timed, ← map_snd_sightedFiles,
      List.map_map]
    apply length_dedup_map_eq
    intro a isFound b isFoundToo
    exact alike a isFound b isFoundToo (plain a isFound) (plain b isFoundToo)
  · have distinct := nodup_keys wellNamed plain forward
    refine ⟨distinct, rowsOnRecord_eq_zipWith timed distinct, ?_⟩
    rw [rowsOnRecord_eq_zipWith timed distinct, List.length_zipWith, timed, Nat.min_self,
      ← map_snd_sightedFiles, List.length_map]

theorem rowsOnRecord_scan_releasedTree :
    releasedTree.WellNamed ∧
    (∀ found ∈ sightedFiles {} "internal" releasedTree, HasPlainGroup found.1) ∧
    (∀ found ∈ sightedFiles {} "internal" releasedTree, HasForwardNames found.1) ∧
    (scan {} "internal" releasedTree).length = 2 ∧
    (rowsOnRecord (scan {} "internal" releasedTree)
      [bareArchive.modified.toInstant, bareArchive.modified.toInstant]).length = 2 := by
  have wellNamed : releasedTree.WellNamed := wellNamed_twoArchives (by decide) (by decide)
  have both : (scan {} "internal" releasedTree).length = 2 := by
    rw [(scan_perm walk_releasedTree_perm {} "internal").length_eq]
    decide
  have named : ∀ found ∈ sightedFiles {} "internal" releasedTree,
      HasPlainGroup found.1 ∧ HasForwardNames found.1 := by
    intro found isFound
    rcases List.mem_pair.1 (mem_paths_of_mem_sightedFiles walk_releasedTree_perm isFound) with
      isTool | isLibrary
    · rw [isTool]
      decide
    · rw [isLibrary]
      decide
  have plain := fun found isFound => (named found isFound).1
  have forward := fun found isFound => (named found isFound).2
  obtain ⟨_keys, _alike, whole⟩ := rowsOnRecord_scan wellNamed
    [bareArchive.modified.toInstant, bareArchive.modified.toInstant] both.symm
  obtain ⟨_distinct, _rows, onePerFile⟩ := (whole plain).2 forward
  refine ⟨wellNamed, plain, forward, both, ?_⟩
  rw [onePerFile, ← List.length_map Prod.snd, map_snd_sightedFiles]
  exact both

theorem losesRow_shadowedTree_dottedTree : LosesRow shadowedTree ∧ LosesRow dottedTree := by
  constructor
  · refine losesRow_of_perm
      { repository := "internal", group := "org", artifact := "lib", version := "1.0"
        classifier := none, packaging := "jar" }
      (wellNamed_twoArchives (by decide) (by decide)) (walk_twoArchives_perm (by decide) _ _) ?_
    decide
  · refine losesRow_of_perm
      { repository := "internal", group := "org.util", artifact := "lib", version := "1.0"
        classifier := none, packaging := "jar" }
      (wellNamed_twoArchives (by decide) (by decide)) (walk_twoArchives_perm (by decide) _ _) ?_
    decide

end ArtifactCatalog.Sighting
