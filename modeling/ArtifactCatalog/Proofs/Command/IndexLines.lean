/-
The lines that indexing prints. Each shows one sighting, in the order of the scan: it
is read as the parts of the sighting, whatever characters these hold, and there is no
line break in it.
-/

import ArtifactCatalog.Command.Run
import ArtifactCatalog.Proofs.Json.DataModel
import ArtifactCatalog.Proofs.Json.TextRoundTrip
import ArtifactCatalog.Proofs.Sighting.Scanning

namespace ArtifactCatalog

namespace Json

/-! ### Written records -/

section Written

variable {depth : Nat}

theorem legible_text (s : String) : Legible depth (JsonForm.write s) := .text s

theorem legible_word64 (n : UInt64) : Legible depth (JsonForm.write n) := by
  refine .integer ?_
  have below := n.toNat_lt
  unfold isWord Number.signedWordLimit UInt64.size
  simp only [Bool.and_eq_true, decide_eq_true_eq]
  omega

theorem legible_texts (texts : List String) : Legible (depth + 1) (JsonForm.write texts) := by
  refine .list fun item member => ?_
  obtain ⟨s, _isText, rfl⟩ := List.mem_map.1 member
  exact legible_text s

theorem legible_instant (instant : Time.Instant) : Legible depth (JsonForm.write instant) := .text _

theorem legible_checksum (checksum : Checksum) : Legible (depth + 1) (JsonForm.write checksum) := by
  refine .object (by simp [field]) ?_
  simp only [field, List.forall_mem_append, List.forall_mem_singleton]
  exact ⟨.text _, legible_text _⟩

theorem legible_coordinate (coordinate : Coordinate) :
    Legible (depth + 1) (JsonForm.write coordinate) := by
  obtain ⟨group, artifact, version, classifier, packaging⟩ := coordinate
  have part : ∀ field ∈ fieldIfPresent "classifier" classifier, Legible depth field.2 := by
    cases classifier with
    | none => nofun
    | some inner => exact List.forall_mem_singleton.2 (legible_text inner)
  refine .object (by cases classifier <;> simp [field, fieldIfPresent]) ?_
  simp only [field, List.forall_mem_append, List.forall_mem_singleton]
  exact ⟨⟨⟨⟨legible_text _, legible_text _⟩, legible_text _⟩, part⟩, legible_text _⟩

theorem legible_fingerprint (f : Fingerprint) : Legible (depth + 2) (JsonForm.write f) := by
  refine .object (by simp [field]) ?_
  simp only [field, List.forall_mem_append, List.forall_mem_singleton]
  exact ⟨⟨⟨⟨legible_checksum _, legible_text _⟩, legible_instant _⟩, legible_word64 _⟩,
    legible_texts _⟩

theorem legible_sighting (s : Sighting) : Legible (depth + 3) (JsonForm.write s) := by
  refine .object (by simp [field]) ?_
  simp only [field, List.forall_mem_append, List.forall_mem_singleton]
  exact ⟨⟨legible_text _, legible_coordinate _⟩, legible_fingerprint _⟩

end Written

end Json

theorem readsBack_sighting {s : Sighting} (dated : s.fingerprint.lastModified.IsDated) :
    JsonForm.ReadsBack s := by
  apply FieldReader.readRecord_object
  have record := JsonForm.readsBack_fingerprint_of_lastModified
    (JsonForm.readsBack_instant_of_isDated dated)
  refine .bind (.required ?repository (JsonForm.readsBack_text _)) <|
    .bind (.required ?coordinate (JsonForm.readsBack_coordinate _)) <|
    .bind (.required ?record record) <| .pure _
  all_goals simp [List.lookup_append]

namespace Command

/-- The line has no line break, it is read as the parts of the sighting and no others, and
these are read back as the sighting. -/
structure Shows (line : String) (s : Sighting) : Prop where
  oneLine : '\n' ∉ line.toList
  parts : Json.parse? line = some (.object
    [("repository_id", .text s.repository), ("coordinate", JsonForm.write s.coordinate),
      ("record", JsonForm.write s.fingerprint)])
  readBack : (Json.parse? line).bind JsonForm.read? = some s

theorem shows_compact {s : Sighting} (dated : s.fingerprint.lastModified.IsDated) :
    Shows (Json.compact (JsonForm.write s)) s := by
  have legible : Json.Legible Json.nestingLimit (JsonForm.write s) := Json.legible_sighting s
  have parsed := Json.parse?_compact legible
  refine ⟨fun lineBreak => ?_, parsed, ?_⟩
  · rw [Json.compact, String.toList_ofList] at lineBreak
    exact absurd (Json.isControlFree_render legible _ lineBreak) (by decide)
  · rw [parsed]
    exact readsBack_sighting dated

theorem jsonLines_eq_join {α : Type} [JsonForm α] (values : List α) :
    jsonLines values = String.join
      ((values.map fun value => Json.compact (JsonForm.write value)).map (· ++ "\n")) := by
  apply String.toList_injective
  simp only [jsonLines, Json.compact, String.toList_ofList, String.toList_join, List.map_map,
    List.flatMap_map, Function.comp_apply, String.toList_append]
  rfl

theorem forall₂_shows_compact {sightings : List Sighting}
    (dated : ∀ s ∈ sightings, s.fingerprint.lastModified.IsDated) :
    List.Forall₂ Shows (sightings.map fun s => Json.compact (JsonForm.write s)) sightings :=
  List.forall₂_map_left_iff.2
    (List.forall₂_same.2 fun s member => shows_compact (dated s member))

theorem index_showsSightings {around : Surroundings} {settings : Settings}
    (succeeds : (index around settings false).code = 0) :
    ∃ root sightings lines, settings.repository.root = some root ∧
      Sighting.scanAt settings.indexer settings.repository.id (around.treeAt? root) root =
        .ok sightings ∧
      (index around settings false).output = String.join (lines.map (· ++ "\n")) ∧
      List.Forall₂ Shows lines sightings := by
  unfold index at succeeds ⊢
  cases hasRoot : settings.repository.root with
  | none =>
      rw [hasRoot] at succeeds
      cases succeeds
  | some root =>
      rw [hasRoot] at succeeds
      dsimp only at succeeds ⊢
      cases scanned : Sighting.scanAt settings.indexer settings.repository.id
          (around.treeAt? root) root with
      | error fault =>
          rw [scanned] at succeeds
          cases succeeds
      | ok sightings =>
          exact ⟨root, sightings, _, rfl, scanned, jsonLines_eq_join sightings,
            forall₂_shows_compact (Sighting.isDated_of_mem_scanAt scanned)⟩

/-- A run that indexes without storing, and ends well, prints one line for each sighting of
the scan, in the order of the scan, and nothing else. -/
theorem run_printsSightings {around : Surroundings} {environment : Settings.Environment}
    {words : List String} {invocation : Invocation} {repository folder : Option String}
    (asked : Invocation.read (allVariables around environment) words = .ok invocation)
    (isIndex : invocation.task = .index repository folder false)
    (succeeds : (run around environment words).code = 0) :
    ∃ settings root sightings lines,
      invocation.settings around (allVariables around environment) = .ok settings ∧
      settings.repository.root = some root ∧
      Sighting.scanAt settings.indexer settings.repository.id (around.treeAt? root) root =
        .ok sightings ∧
      (run around environment words).output = String.join (lines.map (· ++ "\n")) ∧
      List.Forall₂ Shows lines sightings := by
  unfold run at succeeds ⊢
  dsimp only at succeeds ⊢
  rw [asked] at succeeds ⊢
  dsimp only at succeeds ⊢
  cases loaded : invocation.settings around (allVariables around environment) with
  | error failure =>
      rw [loaded] at succeeds
      cases succeeds
  | ok settings =>
      rw [loaded] at succeeds
      dsimp only at succeeds ⊢
      rw [isIndex] at succeeds ⊢
      obtain ⟨root, sightings, lines, hasRoot, scanned, printed, shows⟩ :=
        index_showsSightings succeeds
      exact ⟨settings, root, sightings, lines, rfl, hasRoot, scanned, printed, shows⟩

def quotedStore : Surroundings :=
  .ofTree (Files.FileTree.empty.store Sighting.bareArchive
    ["store", "org", "lib", "1\"\n", "lib-1\"\n.jar"])

def quotedWords : List String := ["index", "--path", "store", "--repository-id", "a\n"]

theorem run_printsSightings_quotedStore :
    Invocation.read (allVariables quotedStore []) quotedWords =
      .ok { task := .index (some "a\n") (some "store") false } ∧
    (run quotedStore [] quotedWords).code = 0 ∧
    ∃ line sighting, (run quotedStore [] quotedWords).output = line ++ "\n" ∧ Shows line sighting ∧
      sighting.repository = "a\n" ∧ sighting.coordinate.version = "1\"\n" := by
  have asked : Invocation.read (allVariables quotedStore []) quotedWords =
      .ok { task := .index (some "a\n") (some "store") false } := by decide +kernel
  have succeeds : (run quotedStore [] quotedWords).code = 0 := by decide +kernel
  have loaded : Invocation.settings quotedStore (allVariables quotedStore [])
      { task := .index (some "a\n") (some "store") false } =
      .ok { repository := { id := "a\n", root := some "store" } } := by decide +kernel
  obtain ⟨settings, root, sightings, lines, isLoaded, hasRoot, scanned, printed, shows⟩ :=
    run_printsSightings asked rfl succeeds
  cases loaded.symm.trans isLoaded
  cases hasRoot
  have walked := Files.FileTree.walk_store_empty Sighting.bareArchive
    ["org", "lib", "1\"\n", "lib-1\"\n.jar"]
  obtain ⟨s, isSighting, hasRepository, hasVersion⟩ : ∃ s,
      Sighting.ofFile? {} "a\n" ["org", "lib", "1\"\n", "lib-1\"\n.jar"] Sighting.bareArchive =
        some s ∧ s.repository = "a\n" ∧ s.coordinate.version = "1\"\n" := by
    refine ⟨_, rfl, ?_⟩
    decide +kernel
  have only : sightings = [s] := by
    have scan : Sighting.scan {} "a\n" (Files.FileTree.empty.store Sighting.bareArchive
        ["org", "lib", "1\"\n", "lib-1\"\n.jar"]) = [s] := by
      rw [Sighting.scan, walked]
      simp [isSighting]
    exact (Except.ok.inj scanned).symm.trans scan
  rw [only, List.forall₂_cons_right_iff] at shows
  obtain ⟨line, others, isShown, noOther, rfl⟩ := shows
  rw [List.forall₂_nil_right_iff] at noOther
  subst noOther
  refine ⟨asked, succeeds, line, s, ?_, isShown, hasRepository, hasVersion⟩
  rw [printed]
  simp [String.join_cons]

end Command

end ArtifactCatalog
