/-
The hits of a search. Every project with a matching entry has one hit, in the place
where it first matches, with the repository of its first matching entry and each version
of its matching entries once. Neither the order of the repositories nor a repeated entry
changes the hits.
-/

import ArtifactCatalog.Proofs.Search.Grouping
import ArtifactCatalog.Proofs.Search.Matching
import Mathlib.Tactic.Tauto

namespace ArtifactCatalog

/-! ### Runs of the index -/

inductive IndexCall
  | withClasses (repository : String) (c : Coordinate) (classNames : List String)
  | withFingerprint (repository : String) (c : Coordinate) (fingerprint : Fingerprint)

def IndexCall.entry : IndexCall → IndexEntry
  | withClasses repository c classNames => { repository, release := c.release, classNames }
  | withFingerprint repository c fingerprint =>
    { repository, release := c.release, classNames := fingerprint.classNames }

namespace SearchIndex

def call (index : SearchIndex) : IndexCall → SearchIndex
  | .withClasses repository c classNames => index.add repository c classNames
  | .withFingerprint repository c fingerprint => index.addFingerprint repository c fingerprint

def ofCalls (calls : List IndexCall) : SearchIndex := calls.foldl call {}

theorem entries_call (index : SearchIndex) (given : IndexCall) :
    (index.call given).entries = index.entries ++ [given.entry] := by
  cases given with
  | withClasses repository c classNames => rfl
  | withFingerprint repository c fingerprint => rfl

theorem entries_foldl_call (index : SearchIndex) (calls : List IndexCall) :
    (calls.foldl call index).entries = index.entries ++ calls.map IndexCall.entry := by
  induction calls generalizing index with
  | nil => exact (List.append_nil index.entries).symm
  | cons given rest ih =>
      rw [List.foldl_cons, ih, entries_call, List.map_cons, List.append_assoc]
      rfl

theorem entries_ofCalls (calls : List IndexCall) :
    (ofCalls calls).entries = calls.map IndexCall.entry :=
  entries_foldl_call {} calls

end SearchIndex

/-! ### Grouped matches -/

structure DescribesProject (test : IndexEntry → Bool) (entries : List IndexEntry)
    (hit : ProjectMatch) : Prop where
  hint : ∃ first, entries[firstPlace test IndexEntry.project entries hit.project]? = some first ∧
    hit.hint = some first.repository
  versionsOnce : hit.versions.Nodup
  versionsCover : ∀ version, version ∈ hit.versions ↔
    ∃ entry ∈ entries, test entry = true ∧ entry.project = hit.project ∧
      entry.release.version = version
  versionsOrdered : hit.versions.Pairwise fun earlier later =>
    firstPlace (fun entry => entry.project == hit.project && test entry)
        (·.release.version) entries earlier <
      firstPlace (fun entry => entry.project == hit.project && test entry)
        (·.release.version) entries later

/-- One hit for each project of the entries that pass the test. -/
structure ListsProjects (test : IndexEntry → Bool) (entries : List IndexEntry)
    (hits : List ProjectMatch) : Prop where
  once : (hits.map ProjectMatch.project).Nodup
  cover : ∀ project, project ∈ hits.map ProjectMatch.project ↔
    ∃ entry ∈ entries, test entry = true ∧ entry.project = project
  ordered : (hits.map ProjectMatch.project).Pairwise fun earlier later =>
    firstPlace test IndexEntry.project entries earlier <
      firstPlace test IndexEntry.project entries later
  describe : ∀ hit ∈ hits, DescribesProject test entries hit

theorem find?_filter_project (test : IndexEntry → Bool) (entries : List IndexEntry)
    (project : String × String) :
    (entries.filter test).find? (fun entry => entry.project == project) =
      entries[firstPlace test IndexEntry.project entries project]? := by
  rw [List.find?_filter, List.find?_eq_getElem?_findIdx]
  unfold firstPlace
  simp only [Bool.decide_and, Bool.decide_eq_true]

theorem describesProject_matchOf (test : IndexEntry → Bool) (entries : List IndexEntry)
    {project : String × String} (occurs : project ∈ (entries.filter test).map IndexEntry.project) :
    DescribesProject test entries (matchOf (entries.filter test) project) where
  hint := by
    obtain ⟨entry, member, same⟩ := List.mem_map.1 occurs
    have found : ((entries.filter test).find? fun other => other.project == project).isSome =
        true := by
      rw [List.find?_isSome]
      exact ⟨entry, member, beq_iff_eq.2 same⟩
    obtain ⟨first, isFirst⟩ := Option.isSome_iff_exists.1 found
    refine ⟨first, (find?_filter_project test entries project).symm.trans isFirst, ?_⟩
    unfold matchOf
    rw [isFirst]
    rfl
  versionsOnce := nodup_eraseDups _
  versionsCover version := by
    unfold matchOf
    dsimp only
    simp only [List.mem_eraseDups, List.mem_map, List.mem_filter, beq_iff_eq, and_assoc]
    exact Iff.rfl
  versionsOrdered := by
    unfold matchOf
    dsimp only
    rw [List.filter_filter]
    exact pairwise_firstPlace _ _ entries

theorem listsProjects_groupedMatches (test : IndexEntry → Bool) (entries : List IndexEntry) :
    ListsProjects test entries (groupedMatches (entries.filter test)) where
  once := by
    rw [map_project_groupedMatches]
    exact nodup_eraseDups _
  cover project := by
    rw [map_project_groupedMatches, List.mem_eraseDups, List.mem_map]
    simp only [List.mem_filter, and_assoc]
  ordered := by
    rw [map_project_groupedMatches]
    exact pairwise_firstPlace test IndexEntry.project entries
  describe hit member := by
    obtain ⟨project, isProject, same⟩ := List.mem_map.1 member
    rw [← same]
    exact describesProject_matchOf test entries (List.mem_eraseDups.1 isProject)

/-! ### A repeated entry -/

theorem ProjectMatch.addVersion_of_mem {found : ProjectMatch} {version : String}
    (known : version ∈ found.versions) : found.addVersion version = found :=
  if_pos known

theorem groupedMatches_append_of_mem {entries : List IndexEntry} {entry : IndexEntry}
    (known : entry ∈ entries) : groupedMatches (entries ++ [entry]) = groupedMatches entries := by
  have knownProject : entry.project ∈ entries.map IndexEntry.project :=
    List.mem_map_of_mem known
  have knownVersion : entry.release.version ∈ (matchOf entries entry.project).versions := by
    unfold matchOf
    rw [List.mem_eraseDups]
    exact List.mem_map_of_mem (List.mem_filter.2 ⟨known, beq_self_eq_true _⟩)
  unfold groupedMatches
  rw [List.map_append, List.map_singleton, eraseDups_append_singleton_of_mem knownProject]
  apply List.map_congr_left
  intro project _member
  by_cases same : project = entry.project
  · rw [same, matchOf_append_of_mem knownProject, ProjectMatch.addVersion_of_mem knownVersion]
  · exact matchOf_append_of_ne entries same

theorem groupedMatches_filter_append_of_mem (test : IndexEntry → Bool)
    {entries : List IndexEntry} {entry : IndexEntry} (known : entry ∈ entries) :
    groupedMatches ((entries ++ [entry]).filter test) = groupedMatches (entries.filter test) := by
  rw [List.filter_append]
  cases passes : test entry with
  | false =>
      rw [List.filter_cons_of_neg (by rw [passes]; exact Bool.false_ne_true), List.filter_nil,
        List.append_nil]
  | true =>
      rw [List.filter_cons_of_pos passes, List.filter_nil]
      exact groupedMatches_append_of_mem (List.mem_filter.2 ⟨known, passes⟩)

/-! ### Searches -/

namespace SearchIndex

theorem allMatches_eq (index : SearchIndex) (query : String)
    (observed : List String) :
    index.allMatches query observed =
      groupedMatches (index.entries.filter fun entry => entry.FoundBy query observed) := by
  unfold allMatches matching
  rw [isEmpty_needle]
  cases blank : Text.allBlank query.toList with
  | true =>
      have none : (index.entries.filter fun entry => entry.FoundBy query observed) = [] := by
        rw [List.filter_eq_nil_iff]
        intro entry _member found
        have nonblank := (of_decide_eq_true found).2.1
        rw [blank] at nonblank
        cases nonblank
      rw [if_pos rfl, none]
      rfl
  | false =>
      rw [if_neg Bool.false_ne_true, foldl_collectMatch]
      congr 2
      funext entry
      rw [Bool.eq_iff_iff, Bool.and_eq_true, decide_eq_true_iff, decide_eq_true_iff,
        hasText_iff_mentions]
      unfold IndexEntry.FoundBy
      simp only [blank, true_and]

variable {query : String} {repositories others : List String}

theorem search_all (index : SearchIndex) (query : String) (repositories : List String) :
    index.search query repositories .all =
      groupedMatches (index.entries.filter fun entry => entry.FoundBy query repositories) := by
  unfold search
  rw [PageWindow.select_all, allMatches_eq]

theorem allMatches_congr (index : SearchIndex)
    (same : ∀ repository, repository ∈ others ↔ repository ∈ repositories) :
    index.allMatches query others = index.allMatches query repositories := by
  unfold allMatches matching
  simp only [same]

theorem allMatches_call_of_mem {index : SearchIndex} {given : IndexCall}
    (known : given.entry ∈ index.entries) :
    (index.call given).allMatches query repositories = index.allMatches query repositories := by
  rw [allMatches_eq, allMatches_eq, entries_call]
  exact groupedMatches_filter_append_of_mem _ known

/-- The hits of all pages list the projects of the entries that a query finds, whatever the
order of the repositories and however often an entry was given to the index. -/
theorem search_listsProjects (calls : List IndexCall) (query : String)
    (repositories : List String) :
    ListsProjects (fun entry => entry.FoundBy query repositories) (calls.map IndexCall.entry)
        ((ofCalls calls).search query repositories .all) ∧
      (∀ others, (∀ repository, repository ∈ others ↔ repository ∈ repositories) →
        ∀ window, (ofCalls calls).search query others window =
          (ofCalls calls).search query repositories window) ∧
      ∀ given : IndexCall, given.entry ∈ calls.map IndexCall.entry →
        ∀ window, (ofCalls (calls ++ [given])).search query repositories window =
          (ofCalls calls).search query repositories window := by
  refine ⟨?_, ?_, ?_⟩
  · rw [search_all, entries_ofCalls]
    exact listsProjects_groupedMatches _ _
  · intro others same window
    unfold search
    rw [allMatches_congr _ same]
  · intro given known window
    have oneMore : ofCalls (calls ++ [given]) = (ofCalls calls).call given :=
      List.foldl_append
    unfold search
    rw [oneMore, allMatches_call_of_mem (by rw [entries_ofCalls]; exact known)]

def mirroredCalls : List IndexCall :=
  [.withClasses "mirror" { group := "org", artifact := "app", version := "2" } ["Main"],
    .withClasses "main" { group := "org", artifact := "lib", version := "1" } [],
    .withClasses "main" { group := "org", artifact := "app", version := "1" } ["Main"]]

def mainFingerprint : Fingerprint where
  checksum := { algorithm := .md5, value := "d41d8cd98f00b204e9800998ecf8427e" }
  archivePath := "org/app/1/app-1.jar"
  lastModified := { seconds := 0, nanoseconds := 0 }
  sizeInBytes := 22
  classNames := ["Main"]

theorem search_listsProjects_mirroredCalls :
    (∀ window, (ofCalls mirroredCalls).search " ORG " ["main", "mirror", "main"] window =
      (ofCalls mirroredCalls).search " ORG " ["mirror", "main"] window) ∧
    ∀ window, (ofCalls (mirroredCalls ++ [.withFingerprint "main"
        { group := "org", artifact := "app", version := "1", packaging := "war" }
        mainFingerprint])).search " ORG " ["mirror", "main"] window =
      (ofCalls mirroredCalls).search " ORG " ["mirror", "main"] window := by
  obtain ⟨_lists, reordered, repeated⟩ :=
    search_listsProjects mirroredCalls " ORG " ["mirror", "main"]
  refine ⟨reordered ["main", "mirror", "main"] ?_, repeated _ (by decide)⟩
  intro repository
  simp only [List.mem_cons, List.not_mem_nil, or_false]
  tauto

end SearchIndex

end ArtifactCatalog
