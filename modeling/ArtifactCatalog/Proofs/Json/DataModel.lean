/-
The data model in JSON. Each value is read back from what is written for it, with
every field as it was: an absent value stays absent, an empty text or list stays
empty, and a facet keeps its kind. Instants are those of years with four digits.
-/

import ArtifactCatalog.Expansion
import ArtifactCatalog.Fingerprint
import ArtifactCatalog.LocatedArtifact
import ArtifactCatalog.Metadata
import ArtifactCatalog.Proofs.Json.RecordForm
import ArtifactCatalog.Proofs.Time.InstantText
import ArtifactCatalog.Search.Match
import ArtifactCatalog.Search.Window
import ArtifactCatalog.Settings

namespace ArtifactCatalog.JsonForm

open FieldReader

/-! ### Parts of records -/

theorem readsBack_optionalText (text : Option String) : ReadsBack text :=
  readsBack_option fun inner _ => ⟨readsBack_text inner, nofun⟩

theorem readsBack_optionalWord (n : Option UInt64) : ReadsBack n :=
  readsBack_option fun inner _ => ⟨readsBack_word64 inner, nofun⟩

theorem readsBack_texts (texts : List String) : ReadsBack texts :=
  readsBack_list fun text _ => readsBack_text text

theorem readsBack_instant_of_isDated {instant : Time.Instant} (dated : instant.IsDated) :
    ReadsBack instant := by
  change Time.Instant.parse? (String.ofList instant.render).toList = some instant
  rw [String.toList_ofList]
  exact Time.Instant.parse?_render dated

theorem readsBack_instant {instant : Time.Instant} (plain : instant.IsPlain) :
    ReadsBack instant :=
  readsBack_instant_of_isDated plain.isDated

theorem readsBack_algorithm (algorithm : Algorithm) : ReadsBack algorithm := by
  cases algorithm <;> rfl

theorem insertProperty_eq_cons {name value : String} {rest : List (String × String)}
    (ascends : ascendingNames ((name, value) :: rest) = true) :
    insertProperty name value rest = (name, value) :: rest := by
  cases rest with
  | nil => rfl
  | cons next rest =>
      have below : name < next.1 := by
        simp only [ascendingNames, Bool.and_eq_true, decide_eq_true_eq] at ascends
        exact ascends.1
      exact if_pos below

theorem ofFields?_map_text {entries : List (String × String)}
    (ascends : ascendingNames entries = true) :
    Properties.ofFields? (entries.map fun (name, value) => (name, .text value)) =
      some ⟨entries, ascends⟩ := by
  induction entries with
  | nil => rfl
  | cons entry rest ih =>
      rw [List.map_cons, Properties.ofFields?, ih (ascendingNames_tail ascends), Option.map_some,
        Option.some.injEq, Properties.set, Properties.mk.injEq]
      exact insertProperty_eq_cons ascends

theorem readsBack_properties (properties : Properties) : ReadsBack properties :=
  ofFields?_map_text properties.ascending

/-! ### Releases and their metadata -/

theorem readsBack_release (release : Release) : ReadsBack release := by
  apply readRecord_object
  refine .bind (.required ?group (readsBack_text _)) <|
    .bind (.required ?artifact (readsBack_text _)) <|
    .bind (.required ?version (readsBack_text _)) <| .pure _
  all_goals simp [List.lookup_append]

theorem readsBack_coordinate (coordinate : Coordinate) : ReadsBack coordinate := by
  apply readRecord_object
  refine .bind (.required ?group (readsBack_text _)) <|
    .bind (.required ?artifact (readsBack_text _)) <|
    .bind (.required ?version (readsBack_text _)) <|
    .bind (.ifPresent ?classifier (readsBack_optionalText _)) <|
    .bind (.defaulted ?packaging (readsBack_text _) _) <| .pure _
  all_goals simp [List.lookup_append]

theorem readsBack_dependency (dependency : Dependency) : ReadsBack dependency := by
  apply readRecord_object
  refine .bind (.required ?group (readsBack_text _)) <|
    .bind (.required ?artifact (readsBack_text _)) <|
    .bind (.required ?version (readsBack_text _)) <|
    .bind (.ifPresent ?classifier (readsBack_optionalText _)) <|
    .bind (.ifPresent ?packaging (readsBack_optionalText _)) <|
    .bind (.ifPresent ?scope (readsBack_optionalText _)) <| .pure _
  all_goals simp [List.lookup_append]

theorem readsBack_referrer (referrer : Referrer) : ReadsBack referrer := by
  apply readRecord_object
  refine .bind (.required ?namespaceName (readsBack_text _)) <|
    .bind (.required ?project (readsBack_text _)) <|
    .bind (.required ?version (readsBack_text _)) <| .pure _
  all_goals simp [List.lookup_append]

theorem yields_mavenFacet {fields : List (String × Json)} {facet : MavenFacet}
    (group : fields.lookup "group_id" = facet.group.map write)
    (artifact : fields.lookup "artifact_id" = facet.artifact.map write)
    (packaging : fields.lookup "packaging" = facet.packaging.map write) :
    Yields fields MavenFacet.reader facet :=
  .bind (.ifPresent group (readsBack_optionalText _)) <|
    .bind (.ifPresent artifact (readsBack_optionalText _)) <|
    .bind (.ifPresent packaging (readsBack_optionalText _)) <| .pure _

theorem readsBack_mavenFacet (facet : MavenFacet) : ReadsBack facet := by
  apply readRecord_object
  apply yields_mavenFacet
  all_goals simp [MavenFacet.fields, List.lookup_append]

theorem readsBack_facet (facet : Facet) : ReadsBack facet := by
  cases facet with
  | maven facet =>
      apply readRecord_object
      generalize written : Json.field "kind" "maven" ++ facet.fields = fields
      have kind : Yields fields (FieldReader.required "kind") "maven" :=
        .required (by simp [← written, List.lookup_append]) (readsBack_text _)
      have rest : Yields fields MavenFacet.reader facet := by
        apply yields_mavenFacet
        all_goals simp [← written, MavenFacet.fields, List.lookup_append]
      unfold Yields at kind rest ⊢
      simp [kind, rest]
  | generic identifier properties =>
      apply readRecord_object
      generalize written : Json.field "kind" "generic" ++ Json.field "facet_id" identifier ++
        Json.field "properties" properties = fields
      have kind : Yields fields (FieldReader.required "kind") "generic" :=
        .required (by simp [← written, List.lookup_append]) (readsBack_text _)
      have names : Yields fields (FieldReader.required "facet_id") identifier :=
        .required (by simp [← written, List.lookup_append]) (readsBack_text _)
      have rest : Yields fields (FieldReader.defaulted "properties" Properties.empty) properties :=
        .defaulted (by simp [← written, List.lookup_append]) (readsBack_properties _) _
      unfold Yields at kind names rest ⊢
      simp [kind, names, rest]

theorem readsBack_releaseMetadata (m : ReleaseMetadata) : ReadsBack m := by
  apply readRecord_object
  refine .bind (.required ?version (readsBack_text _)) <|
    .bind (.ifNonempty ?dependencies (readsBack_list fun d _ => readsBack_dependency d)) <|
    .bind (.ifNonempty ?facets (readsBack_list fun f _ => readsBack_facet f)) <| .pure _
  all_goals simp [List.lookup_append]

/-! ### Expansions -/

theorem readsBack_expansionNode (node : ExpansionNode) : ReadsBack node := by
  apply readRecord_object
  refine .bind (.required ?release (readsBack_release _)) <|
    .bind (.required ?depth (readsBack_word64 _)) <|
    .bind (.required ?dependencies (readsBack_list fun d _ => readsBack_dependency d)) <|
    .bind (.required ?resolved (readsBack_flag _)) <| .pure _
  all_goals simp [List.lookup_append]

theorem readsBack_expansion (tree : Expansion) : ReadsBack tree := by
  apply readRecord_object
  refine .bind (.required ?root (readsBack_release _)) <|
    .bind (.required ?nodes (readsBack_list fun node _ => readsBack_expansionNode node)) <|
    .bind (.required ?truncated (readsBack_flag _)) <| .pure _
  all_goals simp [List.lookup_append]

/-! ### Archives -/

theorem readsBack_checksum (checksum : Checksum) : ReadsBack checksum := by
  apply readRecord_object
  refine .bind (.required ?algorithm (readsBack_algorithm _)) <|
    .bind (.required ?text (readsBack_text _)) <| .pure _
  all_goals simp [List.lookup_append]

theorem readsBack_fingerprint_of_lastModified {f : Fingerprint}
    (modified : ReadsBack f.lastModified) : ReadsBack f := by
  apply readRecord_object
  refine .bind (.required ?checksum (readsBack_checksum _)) <|
    .bind (.required ?archivePath (readsBack_text _)) <|
    .bind (.required ?lastModified modified) <|
    .bind (.required ?sizeInBytes (readsBack_word64 _)) <|
    .bind (.required ?classNames (readsBack_texts _)) <| .pure _
  all_goals simp [List.lookup_append]

theorem readsBack_fingerprint {f : Fingerprint} (plain : f.lastModified.IsPlain) :
    ReadsBack f :=
  readsBack_fingerprint_of_lastModified (readsBack_instant plain)

theorem readsBack_holding {h : Holding} (plain : h.gathered.IsPlain) : ReadsBack h := by
  apply readRecord_object
  refine .bind (.required ?repository (readsBack_text _)) <|
    .bind (.required ?group (readsBack_text _)) <|
    .bind (.required ?artifact (readsBack_text _)) <|
    .bind (.required ?version (readsBack_text _)) <|
    .bind (.ifPresent ?classifier (readsBack_optionalText _)) <|
    .bind (.required ?packaging (readsBack_text _)) <|
    .bind (.required ?checksum (readsBack_text _)) <|
    .bind (.defaulted ?sizeInBytes (readsBack_word64 _) _) <|
    .bind (.required ?gathered (readsBack_instant plain)) <| .pure _
  all_goals simp [List.lookup_append]

/-! ### Queries -/

theorem readsBack_projectMatch (m : ProjectMatch) : ReadsBack m := by
  apply readRecord_object
  refine .bind (.required ?group (readsBack_text _)) <|
    .bind (.required ?artifact (readsBack_text _)) <|
    .bind (.required ?versions (readsBack_texts _)) <|
    .bind (.ifPresent ?hint (readsBack_optionalText _)) <| .pure _
  all_goals simp [List.lookup_append]

theorem readsBack_pageWindow (w : PageWindow) : ReadsBack w := by
  apply readRecord_object
  refine .bind (.nullable ?pageSize (readsBack_optionalWord _)) <|
    .bind (.required ?page (readsBack_word64 _)) <| .pure _
  all_goals simp [List.lookup_append]

theorem readsBack_locatedArtifact (a : LocatedArtifact) : ReadsBack a := by
  apply readRecord_object
  refine .bind (.required ?repository (readsBack_text _)) <|
    .bind (.required ?group (readsBack_text _)) <|
    .bind (.required ?artifact (readsBack_text _)) <|
    .bind (.required ?version (readsBack_text _)) <|
    .bind (.required ?packaging (readsBack_text _)) <| .pure _
  all_goals simp [List.lookup_append]

/-! ### Settings -/

theorem readsBack_indexingPolicy (policy : IndexingPolicy) : ReadsBack policy := by
  apply readRecord_object
  refine .bind (.defaulted ?algorithm (readsBack_algorithm _) _) <|
    .bind (.defaulted ?packagings (readsBack_texts _) _) <| .pure _
  all_goals simp [List.lookup_append]

theorem readsBack_repositorySettings (s : RepositorySettings) : ReadsBack s := by
  apply readRecord_object
  refine .bind (.defaulted ?id (readsBack_text _) _) <|
    .bind (.defaulted ?root (readsBack_optionalText _) _) <| .pure _
  all_goals simp [List.lookup_append]

theorem readsBack_poolSettings (s : PoolSettings) : ReadsBack s := by
  apply readRecord_object
  refine .bind (.defaulted ?address (readsBack_text _) _) <|
    .bind (.defaulted ?fewest (readsBack_word32 _) _) <|
    .bind (.defaulted ?most (readsBack_word32 _) _) <|
    .bind (.defaulted ?connectSeconds (readsBack_word64 _) _) <|
    .bind (.defaulted ?idleSeconds (readsBack_word64 _) _) <|
    .bind (.defaulted ?logsStatements (readsBack_flag _) _) <|
    .bind (.defaulted ?migrates (readsBack_flag _) _) <| .pure _
  all_goals simp [List.lookup_append]

theorem readsBack_loggingSettings (s : LoggingSettings) : ReadsBack s := by
  apply readRecord_object
  refine .bind (.defaulted ?level (readsBack_text _) _) <|
    .bind (.defaulted ?asJson (readsBack_flag _) _) <|
    .bind (.defaulted ?showsThreads (readsBack_flag _) _) <|
    .bind (.defaulted ?showsTarget (readsBack_flag _) _) <| .pure _
  all_goals simp [List.lookup_append]

theorem readsBack_settings (s : Settings) : ReadsBack s := by
  apply readRecord_object
  have database : ReadsBack s.database :=
    readsBack_option fun inner _ => ⟨readsBack_poolSettings inner, nofun⟩
  refine .bind (.defaulted ?indexer (readsBack_indexingPolicy _) _) <|
    .bind (.defaulted ?repository (readsBack_repositorySettings _) _) <|
    .bind (.defaulted ?database database _) <|
    .bind (.defaulted ?logging (readsBack_loggingSettings _) _) <| .pure _
  all_goals simp [List.lookup_append]

/-! ### The data model -/

/-- Every value of the data model is read back from its JSON form, with an instant in it if
that is of the years 0 to 9999 and not within a leap second. -/
theorem readsBack_dataModel :
    (∀ holding : Holding, holding.gathered.IsPlain → ReadsBack holding) ∧
    (∀ fingerprint : Fingerprint, fingerprint.lastModified.IsPlain → ReadsBack fingerprint) ∧
    (∀ release : Release, ReadsBack release) ∧
    (∀ coordinate : Coordinate, ReadsBack coordinate) ∧
    (∀ dependency : Dependency, ReadsBack dependency) ∧
    (∀ referrer : Referrer, ReadsBack referrer) ∧
    (∀ node : ExpansionNode, ReadsBack node) ∧
    (∀ expansion : Expansion, ReadsBack expansion) ∧
    (∀ facet : MavenFacet, ReadsBack facet) ∧
    (∀ facet : Facet, ReadsBack facet) ∧
    (∀ metadata : ReleaseMetadata, ReadsBack metadata) ∧
    (∀ checksum : Checksum, ReadsBack checksum) ∧
    (∀ found : ProjectMatch, ReadsBack found) ∧
    (∀ window : PageWindow, ReadsBack window) ∧
    (∀ artifact : LocatedArtifact, ReadsBack artifact) ∧
    (∀ policy : IndexingPolicy, ReadsBack policy) ∧
    (∀ settings : PoolSettings, ReadsBack settings) ∧
    (∀ settings : Settings, ReadsBack settings) :=
  ⟨fun _ => readsBack_holding, fun _ => readsBack_fingerprint, readsBack_release,
    readsBack_coordinate, readsBack_dependency, readsBack_referrer, readsBack_expansionNode,
    readsBack_expansion, readsBack_mavenFacet, readsBack_facet, readsBack_releaseMetadata,
    readsBack_checksum, readsBack_projectMatch, readsBack_pageWindow, readsBack_locatedArtifact,
    readsBack_indexingPolicy, readsBack_poolSettings, readsBack_settings⟩

def leapDayEnd : Time.Instant := { seconds := 951868799, nanoseconds := 999999999 }

theorem readsBack_dataModel_leapDayEnd :
    leapDayEnd.IsPlain ∧
    ReadsBack ({ repository := "internal", group := "org", artifact := "lib", version := "1.0",
                 classifier := some "", packaging := "jar", checksum := "",
                 sizeInBytes := 18446744073709551615, gathered := leapDayEnd } : Holding) := by
  have plain : leapDayEnd.IsPlain := ⟨by decide, by decide, by decide⟩
  exact ⟨plain, readsBack_dataModel.1 _ plain⟩

end ArtifactCatalog.JsonForm
