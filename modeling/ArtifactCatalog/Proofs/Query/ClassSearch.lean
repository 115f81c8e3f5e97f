/-
Search for the classes of a scanned repository. Once the sightings of a scan are
indexed, among whatever else, a query with the name of one of their classes
answers with the release, however the letters A to Z are written in it and
whatever blanks stand around it.
-/

import ArtifactCatalog.Proofs.Query.Agreement
import ArtifactCatalog.Proofs.Search.Occurrence
import ArtifactCatalog.Proofs.Sighting.Scanning
import ArtifactCatalog.Proofs.Text.Spelling

namespace ArtifactCatalog

open Files

/-! ### Entries stay in the index -/

namespace Catalog

theorem entries_step_isPrefix (catalog : Catalog) (step : CatalogStep) :
    catalog.index.entries <+: (catalog.step step).index.entries := by
  cases step with
  | index repository coordinate classNames => exact List.prefix_append _ _
  | addRelease repository group artifact metadata => exact List.prefix_rfl
  | addReferrer repository release referrer => exact List.prefix_rfl
  | fail repository => exact List.prefix_rfl

theorem entries_run_isPrefix (catalog : Catalog) (steps : List CatalogStep) :
    catalog.index.entries <+: (catalog.run steps).index.entries := by
  induction steps generalizing catalog with
  | nil => exact List.prefix_rfl
  | cons step rest ih => exact (entries_step_isPrefix catalog step).trans (ih (catalog.step step))

theorem mem_entries_run {steps : List CatalogStep} {repository : String} {coordinate : Coordinate}
    {classNames : List String} (taken : .index repository coordinate classNames ∈ steps)
    (catalog : Catalog) :
    { repository, release := coordinate.release, classNames } ∈
      (catalog.run steps).index.entries := by
  induction steps generalizing catalog with
  | nil => cases taken
  | cons step rest ih =>
      rcases List.mem_cons.1 taken with here | later
      · subst here
        apply (entries_run_isPrefix _ rest).subset
        exact List.mem_append_right _ List.mem_cons_self
      · exact ih later (catalog.step step)

theorem exists_mem_quickSearch {catalog : Catalog} {observed : List String} {query : String}
    {entry : IndexEntry} (member : entry ∈ catalog.index.entries)
    (found : entry.FoundBy query observed) (order : VersionOrder) :
    ∃ answer, (catalog.sources order observed).quickSearch query = .ok answer ∧
      ∃ artifact ∈ answer, artifact.release = entry.release := by
  have nonempty : observed ≠ [] := List.ne_nil_of_mem found.1
  refine ⟨_, catalog.quickSearch_sources order nonempty query,
    catalog.registry.locate observed entry.release, ?_,
    catalog.registry.release_locate observed entry.release⟩
  apply List.mem_map_of_mem
  exact QuerySources.mem_releasesOf_iff.2
    (SearchIndex.reports_search_iff.2 ⟨entry, member, found, rfl⟩)

end Catalog

/-! ### Classes of a repository -/

namespace Sighting

variable {policy : IndexingPolicy} {repository : String} {root : FileTree}

def indexStep (s : Sighting) : CatalogStep :=
  .index s.repository s.coordinate s.fingerprint.classNames

/-- An archive at the layout path of the coordinate has a class file of this name: its
folders are parted by dots, and the suffix of class files is left out. -/
def HoldsClass (policy : IndexingPolicy) (root : FileTree) (coordinate : Coordinate)
    (className : String) : Prop :=
  ∃ path file entryNames stem, (path, file) ∈ root.walk ∧
    IsArtifact policy path file coordinate entryNames ∧
    String.ofList (stem ++ Archive.classSuffix) ∈ entryNames ∧
    String.ofList (Text.replaceChar '/' '.' stem) = className

theorem mem_classNames_iff {entryNames : List String} {className : String} :
    className ∈ Archive.classNames entryNames ↔
      ∃ stem, String.ofList (stem ++ Archive.classSuffix) ∈ entryNames ∧
        String.ofList (Text.replaceChar '/' '.' stem) = className := by
  unfold Archive.classNames
  rw [List.mem_filterMap]
  constructor
  · rintro ⟨name, member, named⟩
    obtain ⟨stem, cut, same⟩ := Option.map_eq_some_iff.1 named
    refine ⟨stem, ?_, same⟩
    rw [← Text.beforeEnd?_eq_some_iff.1 cut, String.ofList_toList]
    exact member
  · rintro ⟨stem, member, same⟩
    refine ⟨_, member, Option.map_eq_some_iff.2 ⟨stem, ?_, same⟩⟩
    rw [String.toList_ofList]
    exact Text.beforeEnd?_eq_some_iff.2 rfl

theorem exists_mem_scan_iff_holdsClass {coordinate : Coordinate} {className : String} :
    (∃ s ∈ scan policy repository root,
        s.coordinate = coordinate ∧ className ∈ s.fingerprint.classNames) ↔
      HoldsClass policy root coordinate className := by
  unfold scan HoldsClass
  constructor
  · rintro ⟨s, member, same, isClass⟩
    obtain ⟨⟨path, file⟩, walked, sighted⟩ := List.mem_filterMap.1 member
    obtain ⟨other, entryNames, isArtifact, rfl⟩ := ofFile?_eq_some_iff.1 sighted
    obtain rfl : other = coordinate := same
    obtain ⟨stem, entry, named⟩ := mem_classNames_iff.1 isClass
    exact ⟨path, file, entryNames, stem, walked, isArtifact, entry, named⟩
  · rintro ⟨path, file, entryNames, stem, walked, isArtifact, entry, named⟩
    refine ⟨recordOf policy repository path file coordinate entryNames, ?_, rfl,
      mem_classNames_iff.2 ⟨stem, entry, named⟩⟩
    exact List.mem_filterMap.2
      ⟨(path, file), walked, ofFile?_eq_some_iff.2 ⟨coordinate, entryNames, isArtifact, rfl⟩⟩

theorem repository_of_mem_scan {s : Sighting} (member : s ∈ scan policy repository root) :
    s.repository = repository := by
  obtain ⟨⟨path, file⟩, _walked, sighted⟩ := List.mem_filterMap.1 member
  exact (ofFile?_eq_some sighted).1

theorem foundBy_of_spells {s : Sighting} {className query : String} {observed : List String}
    (observes : s.repository ∈ observed) (isClass : className ∈ s.fingerprint.classNames)
    (nonblank : Text.allBlank className.toList = false)
    (spells : Text.Spells query.toList className.toList) :
    ({ repository := s.repository, release := s.coordinate.release,
       classNames := s.fingerprint.classNames } : IndexEntry).FoundBy query observed := by
  have visible : Text.trim query.toList ≠ [] := by
    intro nothing
    have blank := spells.asciiLower_trim
    rw [nothing] at blank
    have empty : Text.trim className.toList = [] := List.map_eq_nil_iff.1 blank.symm
    rw [(Text.trim_eq_nil_iff _).1 empty] at nonblank
    cases nonblank
  exact SearchIndex.foundBy_of_infix observes visible
    (List.mem_cons_of_mem _ (List.mem_cons_of_mem _ isClass)) spells.infix_lower

end Sighting

namespace Catalog

variable {policy : IndexingPolicy} {repository shown : String} {root : FileTree}
  {sightings : List Sighting} {steps : List CatalogStep} {observed : List String}

/-- The classes of a scan are the class files of the archives in the tree, and after the
sightings were indexed every spelling of such a class answers with its release. -/
theorem quickSearch_findsClasses
    (scanned : Sighting.scanAt policy repository (some root) shown = .ok sightings)
    (indexed : ∀ s ∈ sightings, s.indexStep ∈ steps) (observes : repository ∈ observed)
    (catalog : Catalog) (order : VersionOrder) :
    (∀ coordinate className,
      (∃ s ∈ sightings, s.coordinate = coordinate ∧ className ∈ s.fingerprint.classNames) ↔
        Sighting.HoldsClass policy root coordinate className) ∧
    ∀ s ∈ sightings, ∀ className ∈ s.fingerprint.classNames,
      Text.allBlank className.toList = false →
      ∀ query : String, Text.Spells query.toList className.toList →
        ∃ answer, ((catalog.run steps).sources order observed).quickSearch query = .ok answer ∧
          ∃ artifact ∈ answer, artifact.group = s.coordinate.group ∧
            artifact.artifact = s.coordinate.artifact ∧
            artifact.version = s.coordinate.version := by
  cases root with
  | file content => cases scanned
  | folder entries =>
      obtain rfl : Sighting.scan policy repository (.folder entries) = sightings :=
        Except.ok.inj scanned
      refine ⟨fun _ _ => Sighting.exists_mem_scan_iff_holdsClass, ?_⟩
      intro s member className isClass nonblank query spells
      have here : s.repository ∈ observed := by
        rw [Sighting.repository_of_mem_scan member]
        exact observes
      obtain ⟨answer, answered, artifact, isAnswer, same⟩ := exists_mem_quickSearch
        (mem_entries_run (indexed s member) catalog)
        (Sighting.foundBy_of_spells here isClass nonblank spells) order
      exact ⟨answer, answered, artifact, isAnswer, congrArg Release.group same,
        congrArg Release.artifact same, congrArg Release.version same⟩

/-- An archive with one empty class file, `org/Greet.class`. -/
def greetArchive : StoredFile where
  bytes :=
    let name := "org/Greet.class".toList.map fun c => UInt8.ofNat c.toNat
    [0x50, 0x4b, 3, 4, 10, 0] ++ List.replicate 20 0 ++ [15, 0, 0, 0] ++ name ++
      [0x50, 0x4b, 1, 2, 10, 0, 10, 0] ++ List.replicate 20 0 ++ [15, 0] ++
      List.replicate 16 0 ++ name ++
      [0x50, 0x4b, 5, 6, 0, 0, 0, 0, 1, 0, 1, 0, 61, 0, 0, 0, 45, 0, 0, 0, 0, 0]
  modified := .epoch

def greetTree : FileTree :=
  (FileTree.empty.store greetArchive Sighting.libraryPath).store Sighting.bareArchive
    ["com", "tool", "2.0", "tool-2.0-sources.jar"]

theorem holdsClass_greetTree : Sighting.HoldsClass {} greetTree
    { group := "org", artifact := "lib", version := "1.0" } "org.Greet" := by
  have wellNamed : greetTree.WellNamed :=
    .store (by decide) (.store (by decide) FileTree.wellNamed_empty)
  have isArtifact : Sighting.IsArtifact {} Sighting.libraryPath greetArchive
      { group := "org", artifact := "lib", version := "1.0" } ["org/Greet.class"] :=
    ⟨by decide, by decide, by decide +kernel⟩
  have stored : greetTree.storedAt? Sighting.libraryPath = some greetArchive := by decide +kernel
  exact ⟨_, _, _, "org/Greet".toList, wellNamed.mem_walk_iff.2 stored, isArtifact, by decide,
    by decide⟩

theorem quickSearch_findsClasses_greetTree :
    ∃ sightings, Sighting.scanAt {} "internal" (some greetTree) "." = .ok sightings ∧
      Text.Spells " ORG.greet\t".toList "org.Greet".toList ∧
      ∃ answer, ((({} : Catalog).run (.fail "internal" ::
          sightings.map Sighting.indexStep)).sources .maven ["internal"]).quickSearch
            " ORG.greet\t" = .ok answer ∧
        ∃ artifact ∈ answer, artifact.group = "org" ∧ artifact.artifact = "lib" ∧
          artifact.version = "1.0" := by
  have scanned : Sighting.scanAt {} "internal" (some greetTree) "." =
      .ok (Sighting.scan {} "internal" greetTree) := rfl
  have spells : Text.Spells " ORG.greet\t".toList "org.Greet".toList :=
    ⟨[' '], "ORG.greet".toList, ['\t'], by decide, by decide, by decide,
      Text.sameIgnoringAsciiCase_iff.1 (by decide)⟩
  have indexed : ∀ s ∈ Sighting.scan {} "internal" greetTree,
      s.indexStep ∈ CatalogStep.fail "internal" ::
        (Sighting.scan {} "internal" greetTree).map Sighting.indexStep :=
    fun s member => List.mem_cons_of_mem _ (List.mem_map_of_mem member)
  have observes : "internal" ∈ ["internal"] := List.mem_cons_self
  obtain ⟨classes, finds⟩ := quickSearch_findsClasses scanned indexed observes {} .maven
  obtain ⟨s, member, same, isClass⟩ := (classes _ _).2 holdsClass_greetTree
  have answered := finds s member "org.Greet" isClass (by decide) " ORG.greet\t" spells
  rw [same] at answered
  exact ⟨_, scanned, spells, answered⟩

end Catalog

end ArtifactCatalog
