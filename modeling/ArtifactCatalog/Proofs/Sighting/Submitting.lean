/-
The submission of a coordinate against the scan of its repository. The one goes from a
coordinate down to a file, the other from all files back to coordinates. Where the path of
the coordinate leads down and is read back, both come to the same file and record the same
of it.
-/

import ArtifactCatalog.Proofs.Coordinate.RoundTrip
import ArtifactCatalog.Proofs.Files.Descent
import ArtifactCatalog.Proofs.Sighting.Scanning

namespace ArtifactCatalog.Sighting

open Files

variable {policy : IndexingPolicy} {repository : String} {root : FileTree} {c : Coordinate}

/-! ### Names of a repository path -/

theorem hasForwardNames_of_storedAt? (wellNamed : root.WellNamed)
    (forward : ∀ found ∈ root.walk, HasForwardNames found.1) {path : List String}
    {file : StoredFile} (stored : root.storedAt? path = some file) : HasForwardNames path :=
  forward (path, file) (wellNamed.mem_walk_iff.2 stored)

theorem pathNames_repositoryPath {path : List String} (nonempty : path ≠ [])
    (named : ∀ name ∈ path, IsFileName name) (forward : HasForwardNames path) :
    pathNames (repositoryPath path).toList = path := by
  unfold pathNames
  rw [forward.toList_repositoryPath,
    List.splitOn_intercalate '/' (slash_not_mem_of_isFileName named) (by simpa using nonempty),
    List.map_map]
  exact List.map_id'' (fun name => String.ofList_toList) path

theorem repositoryPath_pathNames {path : String}
    (forward : HasForwardNames (pathNames path.toList)) :
    repositoryPath (pathNames path.toList) = path := by
  apply String.toList_injective
  rw [forward.toList_repositoryPath]
  unfold pathNames
  rw [List.map_map]
  have kept : (path.toList.splitOn '/').map (String.toList ∘ String.ofList) =
      path.toList.splitOn '/' := List.map_id'' (fun part => String.toList_ofList) _
  rw [kept, List.intercalate_splitOn]

/-! ### Sightings at one path -/

theorem archivePath_of_ofFile? {path : List String} {file : StoredFile} {sighting : Sighting}
    (sighted : ofFile? policy repository path file = some sighting) :
    sighting.fingerprint.archivePath = repositoryPath path := by
  obtain ⟨coordinate, entryNames, _isArtifact, rfl⟩ := ofFile?_eq_some_iff.1 sighted
  rfl

theorem archivePath_eq_iff {names : List String} {file : StoredFile} {sighting : Sighting}
    (sighted : ofFile? policy repository names file = some sighting)
    (named : ∀ name ∈ names, IsFileName name) (forward : HasForwardNames names) (path : String) :
    sighting.fingerprint.archivePath = path ↔ names = pathNames path.toList := by
  rw [archivePath_of_ofFile? sighted]
  constructor
  · intro same
    have nonempty : names ≠ [] := path_ne_nil_of_ofPath? (ofFile?_eq_some sighted).2
    rw [← same]
    exact (pathNames_repositoryPath nonempty named forward).symm
  · intro same
    subst same
    exact repositoryPath_pathNames forward

/-- Of all files of a tree, only the one to which the names of a path lead is listed at it. -/
theorem filter_scan_eq (wellNamed : root.WellNamed)
    (forward : ∀ found ∈ root.walk, HasForwardNames found.1) (path : String) :
    (scan policy repository root).filter (·.fingerprint.archivePath = path) =
      ((root.storedAt? (pathNames path.toList)).bind
        (ofFile? policy repository (pathNames path.toList))).toList := by
  have atPath : ∀ found ∈ root.walk,
      (ofFile? policy repository found.1 found.2).filter (·.fingerprint.archivePath = path) =
        if found.1 = pathNames path.toList then ofFile? policy repository found.1 found.2
        else none := by
    intro found isFound
    obtain ⟨names, file⟩ := found
    dsimp only
    cases sighted : ofFile? policy repository names file with
    | none => rw [Option.filter_none, ite_self]
    | some sighting =>
        have same := archivePath_eq_iff sighted (wellNamed.isFileName_of_mem_walk isFound)
          (forward _ isFound) path
        rw [Option.filter_some]
        simp only [same, decide_eq_true_eq]
  have located : (root.walk.filterMap fun found =>
      if found.1 = pathNames path.toList then ofFile? policy repository found.1 found.2
      else none) =
        (root.walk.filter (·.1 = pathNames path.toList)).filterMap fun found =>
          ofFile? policy repository found.1 found.2 := by
    rw [List.filterMap_filter]
    simp only [decide_eq_true_eq]
  unfold scan
  rw [List.filter_filterMap]
  refine (List.filterMap_congr atPath).trans ?_
  rw [located, wellNamed.filter_walk_eq]
  cases root.storedAt? (pathNames path.toList) with
  | none => rfl
  | some file =>
      rw [Option.map_some, Option.toList_some, Option.bind_some]
      cases sighted : ofFile? policy repository (pathNames path.toList) file with
      | none => exact List.filterMap_cons_none sighted
      | some sighting => exact List.filterMap_cons_some sighted

/-! ### Submissions -/

theorem fingerprint?_ofFile_none (policy : IndexingPolicy) (c : Coordinate) :
    policy.fingerprint? (.ofFile c none) = none := by
  unfold IndexingPolicy.fingerprint? Submission.ofFile
  exact Option.bind_eq_none_iff.2 fun _ _ => rfl

theorem ofFile?_pathNames (readsBack : Coordinate.ofPath? c.path = some c)
    (forward : HasForwardNames (pathNames c.path.toList)) (file : StoredFile) :
    ofFile? policy repository (pathNames c.path.toList) file =
      (policy.fingerprint? (.ofFile c (some file))).map fun record => ⟨repository, c, record⟩ := by
  unfold ofFile?
  dsimp only
  rw [repositoryPath_pathNames forward, readsBack, Option.map_eq_bind]
  rfl

theorem filter_scan_path (wellNamed : root.WellNamed)
    (forward : ∀ found ∈ root.walk, HasForwardNames found.1) (down : LeadsDown c.path.toList)
    (readsBack : Coordinate.ofPath? c.path = some c) :
    (scan policy repository root).filter (·.fingerprint.archivePath = c.path) =
      ((policy.fingerprint? (.inRepository root c)).map fun record =>
        ⟨repository, c, record⟩).toList := by
  rw [filter_scan_eq wellNamed forward]
  unfold Submission.inRepository
  rw [FileTree.fileAt?_eq_storedAt? down]
  cases stored : root.storedAt? (pathNames c.path.toList) with
  | none =>
      rw [fingerprint?_ofFile_none]
      rfl
  | some file =>
      rw [Option.bind_some,
        ofFile?_pathNames readsBack (hasForwardNames_of_storedAt? wellNamed forward stored)]

/-- What is listed of a repository and the submission of a coordinate are one: the path of the
coordinate is listed if and only if the submission leads to a record, and then once, with the
coordinate and this record. -/
structure AgreesWithSubmission (policy : IndexingPolicy) (repository : String) (root : FileTree)
    (c : Coordinate) (listed : List Sighting) : Prop where
  listed_iff : (∃ record, policy.fingerprint? (.inRepository root c) = some record) ↔
    ∃ sighting ∈ listed, sighting.fingerprint.archivePath = c.path
  same : ∀ sighting ∈ listed, sighting.fingerprint.archivePath = c.path →
    sighting.coordinate = c ∧
      policy.fingerprint? (.inRepository root c) = some sighting.fingerprint
  once : (listed.filter (·.fingerprint.archivePath = c.path)).length ≤ 1

theorem agreesWithSubmission_of_filter_eq {listed : List Sighting}
    (atPath : listed.filter (·.fingerprint.archivePath = c.path) =
      ((policy.fingerprint? (.inRepository root c)).map fun record =>
        ⟨repository, c, record⟩).toList) :
    AgreesWithSubmission policy repository root c listed := by
  have member : ∀ sighting : Sighting,
      sighting ∈ listed ∧ sighting.fingerprint.archivePath = c.path ↔
        ∃ record, policy.fingerprint? (.inRepository root c) = some record ∧
          ⟨repository, c, record⟩ = sighting := by
    intro sighting
    rw [← Option.map_eq_some_iff, ← Option.mem_toList, ← atPath, List.mem_filter,
      decide_eq_true_iff]
  constructor
  · constructor
    · intro submitted
      obtain ⟨record, taken⟩ := submitted
      exact ⟨_, (member _).2 ⟨record, taken, rfl⟩⟩
    · intro present
      obtain ⟨sighting, isListed⟩ := present
      obtain ⟨record, taken, _same⟩ := (member sighting).1 isListed
      exact ⟨record, taken⟩
  · intro sighting isListed isPath
    obtain ⟨record, taken, rfl⟩ := (member sighting).1 ⟨isListed, isPath⟩
    exact ⟨rfl, taken⟩
  · rw [atPath]
    exact Option.length_toList_le

/-- Where no name holds a backslash, and the path of a coordinate leads down and is read back,
a scan of a repository agrees with the submission of the coordinate below its root. -/
theorem scanAt_agreesWithSubmission {entries : List (String × FileTree)}
    (wellNamed : (FileTree.folder entries).WellNamed)
    (forward : ∀ found ∈ (FileTree.folder entries).walk, HasForwardNames found.1)
    (policy : IndexingPolicy) (repository shown : String) (down : LeadsDown c.path.toList)
    (readsBack : Coordinate.ofPath? c.path = some c) :
    c.extension = c.packaging ∧
    ∃ listed, scanAt policy repository (some (.folder entries)) shown = .ok listed ∧
      AgreesWithSubmission policy repository (.folder entries) c listed :=
  ⟨Coordinate.extension_eq_packaging readsBack, scan policy repository (.folder entries), rfl,
    agreesWithSubmission_of_filter_eq (filter_scan_path wellNamed forward down readsBack)⟩

def toolSources : Coordinate where
  group := "com"
  artifact := "tool"
  version := "2.0"
  classifier := some "sources"

theorem scanAt_agreesWithSubmission_releasedTree :
    releasedTree.WellNamed ∧ (∀ found ∈ releasedTree.walk, HasForwardNames found.1) ∧
    LeadsDown toolSources.path.toList ∧
    Coordinate.ofPath? toolSources.path = some toolSources ∧
    ∃ listed, scanAt {} "internal" (some releasedTree) "." = .ok listed ∧
      ∃ sighting ∈ listed, sighting.coordinate = toolSources ∧
        IndexingPolicy.fingerprint? {} (.inRepository releasedTree toolSources) =
          some sighting.fingerprint := by
  have wellNamed : releasedTree.WellNamed := wellNamed_twoArchives (by decide) (by decide)
  have forward : ∀ found ∈ releasedTree.walk, HasForwardNames found.1 := by
    intro found isFound
    rcases List.mem_pair.1 (walk_releasedTree_perm.subset isFound) with isTool | isLibrary
    · rw [isTool]
      decide
    · rw [isLibrary]
      decide
  have down : LeadsDown toolSources.path.toList := by decide
  have readsBack : Coordinate.ofPath? toolSources.path = some toolSources := by decide
  obtain ⟨_extension, listed, scanned, agrees⟩ :=
    scanAt_agreesWithSubmission wellNamed forward {} "internal" "." down readsBack
  refine ⟨wellNamed, forward, down, readsBack, listed, scanned, ?_⟩
  have sighted : ofFile? {} "internal" (pathNames toolSources.path.toList) bareArchive =
      some (recordOf {} "internal" (pathNames toolSources.path.toList) bareArchive toolSources []) :=
    ofFile?_eq_some_iff.2 ⟨toolSources, [], ⟨by decide, by decide, by decide⟩, rfl⟩
  rw [ofFile?_pathNames readsBack (by decide)] at sighted
  obtain ⟨record, taken, _whole⟩ := Option.map_eq_some_iff.1 sighted
  have found : releasedTree.fileAt? toolSources.path = some bareArchive := by decide
  rw [← found] at taken
  obtain ⟨sighting, isListed, isPath⟩ := agrees.listed_iff.1 ⟨record, taken⟩
  exact ⟨sighting, isListed, agrees.same sighting isListed isPath⟩

end ArtifactCatalog.Sighting
