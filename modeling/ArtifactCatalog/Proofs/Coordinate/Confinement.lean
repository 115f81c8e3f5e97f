/-
When the layout path of a valid coordinate stays inside the repository. Validity
keeps slashes out of group and artifact, but it lets a group start with a dot, an
artifact consist of two dots, and the version hold any path at all.
-/

import ArtifactCatalog.Proofs.Coordinate.RoundTrip
import ArtifactCatalog.Proofs.Files.Paths
import ArtifactCatalog.Submission

namespace ArtifactCatalog.Coordinate

open Files

variable {c : Coordinate}

/-! ### Parts of a path -/

theorem IsIdentifier.slash_not_mem {value : String} (identifier : IsIdentifier value) :
    '/' ∉ value.toList :=
  identifier.freeOf '/' List.mem_cons_self

theorem neverClimbs_group {group : String} (identifier : IsIdentifier group) :
    NeverClimbs (Text.replaceChar '.' '/' group.toList) := by
  have dotFree : ∀ part ∈ group.toList.splitOn '.', '.' ∉ part :=
    fun part isPart => Text.not_mem_of_mem_splitOn isPart
  have slashFree : ∀ part ∈ group.toList.splitOn '.', '/' ∉ part := by
    intro part isPart within
    apply identifier.slash_not_mem
    rw [← @List.intercalate_splitOn _ group.toList _ _ '.']
    exact Text.mem_intercalate within isPart
  have steps : Text.replaceChar '.' '/' group.toList =
      ['/'].intercalate (group.toList.splitOn '.') := by
    rw [← Text.replaceChar_intercalate dotFree, List.intercalate_splitOn]
  unfold NeverClimbs pathNames
  rw [steps, List.splitOn_intercalate '/' slashFree (List.splitOn_ne_nil _ _)]
  intro climbs
  obtain ⟨part, isPart, same⟩ := List.mem_map.1 climbs
  apply dotFree part isPart
  rw [← @String.toList_ofList part, same]
  exact List.mem_cons_self

theorem neverClimbs_path_iff (valid : c.check = .ok ()) :
    NeverClimbs c.path.toList ↔
      c.artifact ≠ ".." ∧ NeverClimbs c.version.toList ∧ NeverClimbs c.fileName := by
  obtain ⟨group, artifact, _version⟩ := c.check_eq_ok_iff.1 valid
  rw [toList_path]
  unfold pathEnd
  rw [neverClimbs_append_slash, neverClimbs_append_slash, neverClimbs_append_slash,
    neverClimbs_iff_of_not_mem artifact.slash_not_mem, and_iff_right (neverClimbs_group group)]
  exact and_congr_left fun _ => not_congr String.toList_inj

theorem isRelative_path_iff (valid : c.check = .ok ()) :
    IsRelative c.path.toList ↔ c.group.toList.head? ≠ some '.' := by
  obtain ⟨group, _artifact, _version⟩ := c.check_eq_ok_iff.1 valid
  unfold IsRelative
  rw [toList_path]
  cases split : c.group.toList with
  | nil => exact absurd (String.toList_eq_nil_iff.1 split) group.1
  | cons first rest =>
      have notSlash : first ≠ '/' := by
        rintro rfl
        exact group.slash_not_mem (split ▸ List.mem_cons_self)
      unfold Text.replaceChar
      rw [List.map_cons, List.cons_append, List.head?_cons, List.head?_cons, ne_eq, ne_eq,
        Option.some.injEq, Option.some.injEq]
      by_cases dot : first = '.'
      · rw [if_pos dot]
        exact iff_of_false (fun other => other rfl) (fun other => other dot)
      · rw [if_neg dot]
        exact iff_of_true notSlash dot

structure HasFlatEnd (c : Coordinate) : Prop where
  version : '/' ∉ c.version.toList
  classifier : ∀ classifier ∈ c.classifier, '/' ∉ classifier.toList
  extension : '/' ∉ c.extension.toList

theorem HasFlatEnd.neverClimbs_fileName (flat : c.HasFlatEnd) (valid : c.check = .ok ()) :
    NeverClimbs c.fileName := by
  obtain ⟨_group, artifact, _version⟩ := c.check_eq_ok_iff.1 valid
  have slashFree : '/' ∉ c.fileName := by
    rw [mem_fileName_iff]
    rintro (impossible | impossible | inArtifact | inVersion | ⟨classifier, isClassifier, within⟩ |
      inExtension)
    · exact absurd impossible (by decide)
    · exact absurd impossible (by decide)
    · exact artifact.slash_not_mem inArtifact
    · exact flat.version inVersion
    · exact flat.classifier classifier isClassifier within
    · exact flat.extension inExtension
  rw [neverClimbs_iff_of_not_mem slashFree]
  intro climbs
  have dash : '-' ∈ c.fileName := (mem_fileName_iff c '-').2 (.inl rfl)
  rw [climbs] at dash
  exact absurd dash (by decide)

/-! ### Paths inside the repository -/

theorem dash_mem_path (c : Coordinate) : '-' ∈ c.path.toList := by
  have dash : '-' ∈ c.fileName := (mem_fileName_iff c '-').2 (.inl rfl)
  rw [toList_path]
  unfold pathEnd
  simp only [List.mem_append, List.mem_cons]
  tauto

theorem path_ne_empty (c : Coordinate) : c.path ≠ "" := by
  intro empty
  have dash := c.dash_mem_path
  rw [empty] at dash
  exact List.not_mem_nil dash

/-- Where a file lies that a repository is asked for by a coordinate: below its root,
in the root alone, whatever folders lie around it. -/
structure LiesWithin (c : Coordinate) : Prop where
  staysBelow : StaysBelow c.path.toList
  file : ∀ (root : FileTree) (above : List FileTree),
    (Submission.inRepository root c).file =
      (((pathNames c.path.toList).foldlM FileTree.follow? (root :: above)).bind List.head?).bind
        FileTree.content?

theorem liesWithin_of_neverClimbs (relative : IsRelative c.path.toList)
    (neverClimbs : NeverClimbs c.path.toList) : c.LiesWithin where
  staysBelow := by
    obtain ⟨name, isName, on⟩ :=
      exists_leadsOn_of_mem c.dash_mem_path (by decide) (by decide)
    exact staysBelow_of_neverClimbs relative neverClimbs isName on
  file root above := by
    unfold Submission.inRepository Submission.ofFile
    rw [fileAt?_eq_of_neverClimbs c.path_ne_empty relative neverClimbs root above]

/-- Which valid coordinates have a relative path, and which a path that never climbs.
A path of both kinds leads into the repository. -/
theorem path_confinement (valid : c.check = .ok ()) :
    (IsRelative c.path.toList ↔ c.group.toList.head? ≠ some '.') ∧
    (NeverClimbs c.path.toList ↔
      c.artifact ≠ ".." ∧ NeverClimbs c.version.toList ∧ NeverClimbs c.fileName) ∧
    (c.HasFlatEnd → (NeverClimbs c.path.toList ↔ c.artifact ≠ ".." ∧ c.version ≠ "..")) ∧
    (IsRelative c.path.toList → NeverClimbs c.path.toList → c.LiesWithin) := by
  refine ⟨isRelative_path_iff valid, neverClimbs_path_iff valid, ?_, liesWithin_of_neverClimbs⟩
  intro flat
  rw [neverClimbs_path_iff valid, and_iff_left (flat.neverClimbs_fileName valid),
    neverClimbs_iff_of_not_mem flat.version]
  exact and_congr_right fun _ => not_congr String.toList_inj

def classifiedLibrary : Coordinate where
  group := "org.example"
  artifact := "lib"
  version := "1.0..2"
  classifier := some "sources"

theorem path_confinement_classifiedLibrary :
    classifiedLibrary.check = .ok () ∧ IsRelative classifiedLibrary.path.toList ∧
      NeverClimbs classifiedLibrary.path.toList ∧ classifiedLibrary.LiesWithin := by
  have valid : classifiedLibrary.check = .ok () := by decide
  obtain ⟨relative, _parts, flat, within⟩ := path_confinement valid
  have isRelative := relative.2 (by decide)
  have neverClimbs := (flat ⟨by decide, by decide, by decide⟩).2 (by decide)
  exact ⟨valid, isRelative, neverClimbs, within isRelative neverClimbs⟩

/-! ### Paths out of the repository -/

structure LeavesRepository (c : Coordinate) (place : List String) : Prop where
  valid : c.check = .ok ()
  strays : ¬ (IsRelative c.path.toList ∧ NeverClimbs c.path.toList)
  reached : placeOf [] (joinPath "/srv/repository".toList c.path.toList) = place
  outside : ¬ ["repository", "srv"] <:+ place

def climbingVersion : Coordinate where
  group := "org"
  artifact := "lib"
  version := "../../../../etc/x"

def rootedGroup : Coordinate where
  group := ".etc"
  artifact := "lib"
  version := "1.0"

def climbingArtifact : Coordinate where
  group := "org"
  artifact := ".."
  version := ".."

theorem leavesRepository_by_version_group_artifact :
    LeavesRepository climbingVersion ["x.jar", "etc"] ∧
      LeavesRepository rootedGroup ["lib-1.0.jar", "1.0", "lib", "etc"] ∧
      LeavesRepository climbingArtifact ["..-...jar", "srv"] :=
  ⟨⟨by decide, by decide, by decide, by decide⟩, ⟨by decide, by decide, by decide, by decide⟩,
    ⟨by decide, by decide, by decide, by decide⟩⟩

end ArtifactCatalog.Coordinate
