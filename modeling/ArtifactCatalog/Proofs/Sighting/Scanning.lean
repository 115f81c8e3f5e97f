/-
What a scan of a repository lists. Each file is judged by its own path and bytes,
so the scan lists exactly the files that are artifacts, in the order of their
paths, and an edit of one file changes nothing that is listed of the others.
-/

import ArtifactCatalog.Proofs.Files.WalkOrder
import ArtifactCatalog.Proofs.Sighting.Distinctness

namespace ArtifactCatalog.Sighting

open Files

variable {policy : IndexingPolicy} {repository : String} {root : FileTree}

/-! ### Artifacts -/

/-- The path is that of a coordinate whose packaging is inspected, and the bytes are an
archive with a readable directory. -/
structure IsArtifact (policy : IndexingPolicy) (path : List String) (file : StoredFile)
    (coordinate : Coordinate) (entryNames : List String) : Prop where
  inLayout : Coordinate.ofPath? (repositoryPath path) = some coordinate
  covered : coordinate.packaging ∈ policy.packagings
  readable : Archive.fileNames? file.bytes = some entryNames

/-- All that is recorded of an artifact comes from its own path and content. -/
def recordOf (policy : IndexingPolicy) (repository : String) (path : List String)
    (file : StoredFile) (coordinate : Coordinate) (entryNames : List String) : Sighting where
  repository := repository
  coordinate := coordinate
  fingerprint :=
    { checksum := .ofBytes policy.algorithm file.bytes
      archivePath := repositoryPath path
      lastModified := file.modified.toInstant
      sizeInBytes := UInt64.ofNat file.bytes.length
      classNames := Archive.classNames entryNames }

theorem guard_covers_iff {packaging : String} :
    (guard (policy.covers packaging = true) : Option Unit) = some () ↔
      packaging ∈ policy.packagings := by
  unfold IndexingPolicy.covers guard
  by_cases covered : packaging ∈ policy.packagings
  · rw [if_pos (List.contains_iff_mem.2 covered)]
    exact iff_of_true rfl covered
  · rw [if_neg (mt List.contains_iff_mem.1 covered)]
    exact iff_of_false (Option.some_ne_none () ∘ Eq.symm) covered

theorem ofFile?_eq_some_iff {path : List String} {file : StoredFile} {sighting : Sighting} :
    ofFile? policy repository path file = some sighting ↔
      ∃ coordinate entryNames, IsArtifact policy path file coordinate entryNames ∧
        recordOf policy repository path file coordinate entryNames = sighting := by
  -- Each step that can stop an inspection gives one condition, and the conditions the steps.
  unfold ofFile? IndexingPolicy.fingerprint? Archive.inspect?
  constructor
  · intro sighted
    obtain ⟨coordinate, inLayout, taken⟩ := Option.bind_eq_some_iff.1 sighted
    obtain ⟨_, inspected, whole⟩ := Option.bind_eq_some_iff.1 taken
    obtain ⟨_, covered, opened⟩ := Option.bind_eq_some_iff.1 inspected
    obtain ⟨_, atHand, read⟩ := Option.bind_eq_some_iff.1 opened
    cases atHand
    obtain ⟨_, listed, filled⟩ := Option.bind_eq_some_iff.1 read
    obtain ⟨entryNames, readable, rfl⟩ := Option.map_eq_some_iff.1 listed
    cases filled
    exact ⟨coordinate, entryNames, ⟨inLayout, guard_covers_iff.1 covered, readable⟩,
      Option.some.inj whole⟩
  · rintro ⟨coordinate, entryNames, ⟨inLayout, covered, readable⟩, rfl⟩
    refine Option.bind_eq_some_iff.2 ⟨coordinate, inLayout, ?_⟩
    refine Option.bind_eq_some_iff.2 ⟨_, ?_, rfl⟩
    refine Option.bind_eq_some_iff.2 ⟨(), guard_covers_iff.2 covered, ?_⟩
    refine Option.bind_eq_some_iff.2 ⟨file, rfl, ?_⟩
    exact Option.bind_eq_some_iff.2
      ⟨_, Option.map_eq_some_iff.2 ⟨entryNames, readable, rfl⟩, rfl⟩

theorem isDated_of_mem_scan {s : Sighting} (member : s ∈ scan policy repository root) :
    s.fingerprint.lastModified.IsDated := by
  obtain ⟨⟨path, file⟩, _walked, sighted⟩ := List.mem_filterMap.1 member
  obtain ⟨coordinate, entryNames, _isArtifact, rfl⟩ := ofFile?_eq_some_iff.1 sighted
  exact file.modified.dated

theorem isDated_of_mem_scanAt {found : Option FileTree} {shown : String}
    {sightings : List Sighting} (scanned : scanAt policy repository found shown = .ok sightings) :
    ∀ s ∈ sightings, s.fingerprint.lastModified.IsDated := by
  intro s member
  cases found with
  | none => cases scanned
  | some root =>
      cases root with
      | file content => cases scanned
      | folder entries =>
          rw [← Except.ok.inj scanned] at member
          exact isDated_of_mem_scan member

/-! ### Listings -/

/-- A listing of a repository holds the path of each artifact once, in the order of the
paths, with what is recorded of the file there. -/
structure ListsArtifacts (policy : IndexingPolicy) (repository : String) (root : FileTree)
    (listed : List (List String × Sighting)) : Prop where
  ascending : Ascending listed
  exact : ∀ path sighting, (path, sighting) ∈ listed ↔
    ∃ file coordinate entryNames, root.storedAt? path = some file ∧
      IsArtifact policy path file coordinate entryNames ∧
      recordOf policy repository path file coordinate entryNames = sighting

def apartFrom (path : List String) (listed : List (List String × Sighting)) :
    List (List String × Sighting) :=
  listed.filter fun item => item.1 ≠ path

theorem listsArtifacts_sightedFiles (wellNamed : root.WellNamed) (policy : IndexingPolicy)
    (repository : String) :
    ListsArtifacts policy repository root (sightedFiles policy repository root) where
  ascending :=
    pairwise_sightedFiles (r := fun a b => pathBytes a < pathBytes b) wellNamed.ascending_walk
  exact path sighting := by
    rw [mem_sightedFiles_iff]
    constructor
    · rintro ⟨file, found, sighted⟩
      obtain ⟨coordinate, entryNames, isArtifact⟩ := ofFile?_eq_some_iff.1 sighted
      exact ⟨file, coordinate, entryNames, wellNamed.mem_walk_iff.1 found, isArtifact⟩
    · rintro ⟨file, coordinate, entryNames, stored, isArtifact⟩
      exact ⟨file, wellNamed.mem_walk_iff.2 stored,
        ofFile?_eq_some_iff.2 ⟨coordinate, entryNames, isArtifact⟩⟩

theorem apartFrom_sightedFiles (policy : IndexingPolicy) (repository : String) (root : FileTree)
    (edited : List String) :
    apartFrom edited (sightedFiles policy repository root) =
      (root.walk.filter (·.1 ≠ edited)).filterMap fun (path, file) =>
        (ofFile? policy repository path file).map (path, ·) := by
  unfold apartFrom sightedFiles
  rw [List.filter_filterMap, List.filterMap_filter]
  apply List.filterMap_congr
  rintro ⟨path, file⟩ _found
  dsimp only
  cases ofFile? policy repository path file with
  | none =>
      rw [Option.map_none, Option.filter_none, ite_self]
  | some sighting =>
      rw [Option.map_some, Option.filter_some]

/-! ### Scans -/

theorem scanAt_folder (policy : IndexingPolicy) (repository shown : String)
    (entries : List (String × FileTree)) :
    scanAt policy repository (some (.folder entries)) shown =
      .ok ((sightedFiles policy repository (.folder entries)).map Prod.snd) := by
  rw [map_snd_sightedFiles]
  rfl

/-- A scan answers with all artifacts of the repository in the order of their paths. After an
edit of one file it answers with the same sightings of all others, in the same order. -/
theorem scanAt_listsArtifacts {entries : List (String × FileTree)}
    (wellNamed : (FileTree.folder entries).WellNamed) (policy : IndexingPolicy)
    (repository shown : String) :
    ∃ listed, ListsArtifacts policy repository (.folder entries) listed ∧
      scanAt policy repository (some (.folder entries)) shown = .ok (listed.map Prod.snd) ∧
      ∀ (edited : List String) (others : List (String × FileTree)),
        (FileTree.folder others).WellNamed →
        FileTree.DifferOnlyAt edited (.folder entries) (.folder others) →
        ∃ listedToo, ListsArtifacts policy repository (.folder others) listedToo ∧
          scanAt policy repository (some (.folder others)) shown = .ok (listedToo.map Prod.snd) ∧
          apartFrom edited listedToo = apartFrom edited listed := by
  refine ⟨sightedFiles policy repository (.folder entries),
    listsArtifacts_sightedFiles wellNamed policy repository,
    scanAt_folder policy repository shown entries, ?_⟩
  intro edited others wellNamedToo differ
  refine ⟨sightedFiles policy repository (.folder others),
    listsArtifacts_sightedFiles wellNamedToo policy repository,
    scanAt_folder policy repository shown others, ?_⟩
  rw [apartFrom_sightedFiles, apartFrom_sightedFiles,
    FileTree.walk_apart_eq wellNamed wellNamedToo differ]

def libraryPath : List String := ["org", "lib", "1.0", "lib-1.0.jar"]

def brokenArchive : StoredFile := { bareArchive with bytes := [0x50, 0x4b, 0x05] }

def damagedTree : FileTree := releasedTree.store brokenArchive libraryPath

theorem differOnlyAt_damagedTree :
    FileTree.DifferOnlyAt libraryPath releasedTree damagedTree := by
  apply FileTree.differOnlyAt_store
  intro rest below
  obtain ⟨name, further, rfl⟩ := List.exists_cons_of_ne_nil below
  rfl

theorem scanAt_listsArtifacts_damagedTree :
    releasedTree.WellNamed ∧ damagedTree.WellNamed ∧
    FileTree.DifferOnlyAt libraryPath releasedTree damagedTree ∧
    ∃ listed listedToo : List (List String × Sighting),
      scanAt {} "internal" (some releasedTree) "." = .ok (listed.map Prod.snd) ∧
      scanAt {} "internal" (some damagedTree) "." = .ok (listedToo.map Prod.snd) ∧
      apartFrom libraryPath listedToo = apartFrom libraryPath listed ∧
      libraryPath ∈ listed.map Prod.fst ∧ libraryPath ∉ listedToo.map Prod.fst := by
  have wellNamed : releasedTree.WellNamed := wellNamed_twoArchives (by decide) (by decide)
  have wellNamedToo : damagedTree.WellNamed := .store (by decide) wellNamed
  obtain ⟨listed, lists, scanned, isolated⟩ :=
    scanAt_listsArtifacts wellNamed {} "internal" "."
  obtain ⟨listedToo, listsToo, scannedToo, alike⟩ :=
    isolated libraryPath _ wellNamedToo differOnlyAt_damagedTree
  refine ⟨wellNamed, wellNamedToo, differOnlyAt_damagedTree, listed, listedToo, scanned,
    scannedToo, alike, ?_, ?_⟩
  · have isArtifact : IsArtifact {} libraryPath bareArchive
        { group := "org", artifact := "lib", version := "1.0" } [] :=
      ⟨by decide, by decide, by decide⟩
    have member := (lists.exact libraryPath _).2
      ⟨bareArchive, _, _, by decide, isArtifact, rfl⟩
    exact List.mem_map_of_mem member
  · intro isListed
    obtain ⟨⟨_, sighting⟩, member, rfl⟩ := List.mem_map.1 isListed
    obtain ⟨file, coordinate, entryNames, stored, isArtifact, _record⟩ :=
      (listsToo.exact _ sighting).1 member
    have damaged : damagedTree.storedAt? libraryPath = some brokenArchive := by decide
    have refused : Archive.fileNames? brokenArchive.bytes = none := by decide
    have readable := isArtifact.readable
    rw [← Option.some.inj (damaged.symm.trans stored), refused] at readable
    cases readable

end ArtifactCatalog.Sighting
