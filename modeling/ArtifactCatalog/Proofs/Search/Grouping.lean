/-
Grouping of matching entries. Collecting entries one by one gives one match for
each project, in the order in which the projects first occur, with the versions
of the project in the order in which they first occur.
-/

import ArtifactCatalog.Proofs.FirstOccurrence
import ArtifactCatalog.Search.Index

namespace ArtifactCatalog

def Release.project (release : Release) : String × String := (release.group, release.artifact)

def IndexEntry.project (entry : IndexEntry) : String × String := entry.release.project

def ProjectMatch.project (found : ProjectMatch) : String × String :=
  (found.group, found.artifact)

def matchOf (entries : List IndexEntry) (project : String × String) : ProjectMatch where
  group := project.1
  artifact := project.2
  versions :=
    ((entries.filter fun entry => entry.project == project).map (·.release.version)).eraseDups
  hint := (entries.find? fun entry => entry.project == project).map (·.repository)

def groupedMatches (entries : List IndexEntry) : List ProjectMatch :=
  (entries.map IndexEntry.project).eraseDups.map (matchOf entries)

theorem project_matchOf (entries : List IndexEntry) (project : String × String) :
    (matchOf entries project).project = project := rfl

theorem map_project_groupedMatches (entries : List IndexEntry) :
    (groupedMatches entries).map ProjectMatch.project =
      (entries.map IndexEntry.project).eraseDups := by
  unfold groupedMatches
  rw [List.map_map]
  exact List.map_id _

/-! ### One entry -/

theorem collectMatch_cons (entry : IndexEntry) (found : ProjectMatch) (rest : List ProjectMatch) :
    collectMatch entry (found :: rest) =
      if found.project = entry.project then found.addVersion entry.release.version :: rest
      else found :: collectMatch entry rest := by
  simp only [collectMatch, ProjectMatch.project, IndexEntry.project, Release.project,
    Prod.mk.injEq]

theorem collectMatch_of_not_mem {entry : IndexEntry} {found : List ProjectMatch}
    (new : entry.project ∉ found.map ProjectMatch.project) :
    collectMatch entry found = found ++ collectMatch entry [] := by
  induction found with
  | nil => rfl
  | cons first rest ih =>
      rw [List.map_cons, List.mem_cons, not_or] at new
      rw [collectMatch_cons, if_neg (Ne.symm new.1), ih new.2]
      rfl

theorem collectMatch_of_mem {entry : IndexEntry} {found : List ProjectMatch}
    (once : (found.map ProjectMatch.project).Nodup)
    (known : entry.project ∈ found.map ProjectMatch.project) :
    collectMatch entry found = found.map fun other =>
      if other.project = entry.project then other.addVersion entry.release.version
      else other := by
  induction found with
  | nil => cases known
  | cons first rest ih =>
      rw [List.map_cons, List.nodup_cons] at once
      rw [List.map_cons, List.mem_cons] at known
      rw [collectMatch_cons, List.map_cons]
      by_cases same : first.project = entry.project
      · have kept : (rest.map fun other =>
            if other.project = entry.project then other.addVersion entry.release.version
            else other) = rest := by
          apply (List.map_congr_left ?_).trans (List.map_id' rest)
          intro other member
          apply if_neg
          intro again
          apply once.1
          rw [same, ← again]
          exact List.mem_map_of_mem member
        rw [if_pos same, if_pos same, kept]
      · rw [if_neg same, if_neg same, ih once.2 (known.resolve_left (Ne.symm same))]

/-! ### One more entry among the grouped ones -/

theorem matchOf_append_of_ne (entries : List IndexEntry) {entry : IndexEntry}
    {project : String × String} (other : project ≠ entry.project) :
    matchOf (entries ++ [entry]) project = matchOf entries project := by
  have differs : (entry.project == project) = false := beq_eq_false_iff_ne.2 (Ne.symm other)
  simp [matchOf, differs]

theorem matchOf_append_of_mem {entries : List IndexEntry} {entry : IndexEntry}
    (known : entry.project ∈ entries.map IndexEntry.project) :
    matchOf (entries ++ [entry]) entry.project =
      (matchOf entries entry.project).addVersion entry.release.version := by
  obtain ⟨first, member, same⟩ := List.mem_map.1 known
  have found : (entries.find? fun other => other.project == entry.project).isSome = true := by
    rw [List.find?_isSome]
    exact ⟨first, member, beq_iff_eq.2 same⟩
  have hint : ((entries ++ [entry]).find? fun other => other.project == entry.project) =
      entries.find? fun other => other.project == entry.project := by
    rw [List.find?_append, Option.or_of_isSome found]
  have versions : ((entries ++ [entry]).filter fun other => other.project == entry.project) =
      (entries.filter fun other => other.project == entry.project) ++ [entry] := by
    simp
  unfold matchOf ProjectMatch.addVersion
  dsimp only
  rw [hint, versions, List.map_append, List.map_singleton]
  by_cases old : entry.release.version ∈
      (entries.filter fun other => other.project == entry.project).map (·.release.version)
  · rw [if_pos (List.mem_eraseDups.2 old), eraseDups_append_singleton_of_mem old]
  · rw [if_neg (fun member => old (List.mem_eraseDups.1 member)),
      eraseDups_append_singleton_of_not_mem old]

theorem matchOf_append_of_not_mem {entries : List IndexEntry} {entry : IndexEntry}
    (new : entry.project ∉ entries.map IndexEntry.project) :
    collectMatch entry [] = [matchOf (entries ++ [entry]) entry.project] := by
  have none : ∀ other ∈ entries, (other.project == entry.project) = false := by
    intro other member
    rw [beq_eq_false_iff_ne]
    intro same
    apply new
    rw [← same]
    exact List.mem_map_of_mem member
  have versions : ((entries ++ [entry]).filter fun other => other.project == entry.project) =
      [entry] := by
    rw [List.filter_append, List.filter_eq_nil_iff.2 (by simpa using none)]
    simp
  have hint : ((entries ++ [entry]).find? fun other => other.project == entry.project) =
      some entry := by
    rw [List.find?_append, List.find?_eq_none.2 (by simpa using none)]
    simp
  unfold matchOf
  rw [versions, hint]
  rfl

theorem collectMatch_groupedMatches (entries : List IndexEntry) (entry : IndexEntry) :
    collectMatch entry (groupedMatches entries) = groupedMatches (entries ++ [entry]) := by
  have projects := map_project_groupedMatches entries
  by_cases known : entry.project ∈ entries.map IndexEntry.project
  · have once : ((groupedMatches entries).map ProjectMatch.project).Nodup := by
      rw [projects]
      exact nodup_eraseDups _
    rw [collectMatch_of_mem once (by rw [projects]; exact List.mem_eraseDups.2 known)]
    unfold groupedMatches
    rw [List.map_append, List.map_singleton, eraseDups_append_singleton_of_mem known,
      List.map_map]
    apply List.map_congr_left
    intro project _member
    dsimp only [Function.comp_apply]
    rw [project_matchOf]
    by_cases same : project = entry.project
    · rw [if_pos same, same, matchOf_append_of_mem known]
    · rw [if_neg same, matchOf_append_of_ne entries same]
  · rw [collectMatch_of_not_mem (by rw [projects, List.mem_eraseDups]; exact known),
      matchOf_append_of_not_mem known]
    unfold groupedMatches
    rw [List.map_append, List.map_singleton, eraseDups_append_singleton_of_not_mem known,
      List.map_append, List.map_singleton]
    congr 1
    apply List.map_congr_left
    intro project member
    have other : project ≠ entry.project := by
      intro same
      rw [same, List.mem_eraseDups] at member
      exact known member
    rw [matchOf_append_of_ne entries other]

theorem foldl_collectMatch (entries : List IndexEntry) :
    entries.foldl (fun found entry => collectMatch entry found) [] = groupedMatches entries := by
  induction entries using List.reverseRecOn with
  | nil => rfl
  | append_singleton entries entry ih =>
      rw [List.foldl_append, ih]
      exact collectMatch_groupedMatches entries entry

end ArtifactCatalog
