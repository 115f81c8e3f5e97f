/-
Texts that occur in what is searched. A search reports every observed entry one
of whose texts contains the trimmed query, unless a capital sigma of the query
ends a word in one of the two and not in the other: both are brought to lower
case as they stand, and the sigma then takes another form in each.
-/

import ArtifactCatalog.Proofs.Query.QuickSearch
import ArtifactCatalog.Proofs.Text.CaseContext

namespace ArtifactCatalog

def IndexEntry.texts (entry : IndexEntry) : List String :=
  entry.release.group :: entry.release.artifact :: entry.classNames

theorem IndexEntry.mentions_iff {entry : IndexEntry} {needle : List Char} :
    entry.Mentions needle ↔ ∃ text ∈ entry.texts, needle <:+: Text.lower text.toList := by
  unfold Mentions texts
  simp only [List.mem_cons, exists_eq_or_imp]

structure ProjectMatch.Reports (found : ProjectMatch) (release : Release) : Prop where
  group : found.group = release.group
  artifact : found.artifact = release.artifact
  version : release.version ∈ found.versions

theorem QuerySources.mem_releasesOf_iff {found : List ProjectMatch} {release : Release} :
    release ∈ releasesOf found ↔ ∃ one ∈ found, one.Reports release := by
  unfold releasesOf
  rw [List.mem_flatMap]
  constructor
  · rintro ⟨one, member, isRelease⟩
    obtain ⟨version, isVersion, rfl⟩ := List.mem_map.1 isRelease
    exact ⟨one, member, rfl, rfl, isVersion⟩
  · rintro ⟨one, member, group, artifact, version⟩
    refine ⟨one, member, List.mem_map.2 ⟨release.version, version, ?_⟩⟩
    rw [group, artifact]

namespace SearchIndex

variable {index : SearchIndex} {repositories : List String} {query : String}

/-- A search over all pages reports exactly the releases of the entries that the query finds. -/
theorem reports_search_iff {release : Release} :
    (∃ found ∈ index.search query repositories .all, found.Reports release) ↔
      ∃ entry ∈ index.entries, entry.FoundBy query repositories ∧ entry.release = release := by
  rw [search_all, ← QuerySources.mem_releasesOf_iff, QuerySources.mem_releasesOf_groupedMatches]
  simp only [List.mem_filter, decide_eq_true_eq, and_assoc]

theorem foundBy_of_infix {entry : IndexEntry} {text : String}
    (observed : entry.repository ∈ repositories) (nonblank : Text.trim query.toList ≠ [])
    (isText : text ∈ entry.texts) (occurs : needle query <:+: Text.lower text.toList) :
    entry.FoundBy query repositories := by
  refine ⟨observed, ?_, IndexEntry.mentions_iff.2 ⟨text, isText, occurs⟩⟩
  rw [← Bool.not_eq_true, ← Text.trim_eq_nil_iff]
  exact nonblank

section Occurs

variable {entry : IndexEntry} {text : String} {front back : List Char}
  (member : entry ∈ index.entries) (observed : entry.repository ∈ repositories)
  (nonblank : Text.trim query.toList ≠ []) (isText : text ∈ entry.texts)
  (occurs : text.toList = front ++ Text.trim query.toList ++ back)

include member observed nonblank isText occurs

theorem exists_reports_of_sigmasAgree
    (agree : Text.SigmasAgree front (Text.trim query.toList) back) :
    ∃ found ∈ index.search query repositories .all, found.Reports entry.release := by
  have inText : needle query <:+: Text.lower text.toList := by
    rw [occurs]
    exact agree.infix_lower
  exact reports_search_iff.2
    ⟨entry, member, foundBy_of_infix observed nonblank isText inText, rfl⟩

theorem exists_reports_of_noSigma (plain : Text.capitalSigma ∉ Text.trim query.toList) :
    ∃ found ∈ index.search query repositories .all, found.Reports entry.release :=
  exists_reports_of_sigmasAgree member observed nonblank isText occurs
    (Text.sigmasAgree_of_not_mem plain front back)

/-- Where a query occurs in a text, the lower-case form of the text has the needle exactly
if the capital sigmas agree. A query with such an occurrence in an observed entry is answered. -/
theorem search_findsOccurrence :
    (Text.lowerWithin front.reverse (Text.trim query.toList) back = needle query ↔
      Text.SigmasAgree front (Text.trim query.toList) back) ∧
    (Text.SigmasAgree front (Text.trim query.toList) back →
      ∃ found ∈ index.search query repositories .all, found.Reports entry.release) :=
  ⟨Text.lowerWithin_eq_lower_iff front _ back,
    exists_reports_of_sigmasAgree member observed nonblank isText occurs⟩

end Occurs

def odosIndex : SearchIndex :=
  ({} : SearchIndex).add "internal" { group := "org", artifact := "lib", version := "1.0" }
    ["Mini", "ΟΔΟΣ"]

def odosEntry : IndexEntry where
  repository := "internal"
  release := { group := "org", artifact := "lib", version := "1.0" }
  classNames := ["Mini", "ΟΔΟΣ"]

theorem search_findsOccurrence_endOfWord :
    odosEntry ∈ odosIndex.entries ∧
      "ΟΔΟΣ".toList = ['Ο'] ++ Text.trim " ΔΟΣ ".toList ++ [] ∧
      ∃ found ∈ odosIndex.search " ΔΟΣ " ["internal"] .all, found.Reports odosEntry.release := by
  have member : odosEntry ∈ odosIndex.entries := by decide
  have occurs : "ΟΔΟΣ".toList = ['Ο'] ++ Text.trim " ΔΟΣ ".toList ++ [] := by decide
  have observed : odosEntry.repository ∈ ["internal"] := by decide
  obtain ⟨_sharp, finds⟩ := search_findsOccurrence member observed (by decide) (by decide) occurs
  exact ⟨member, occurs, finds (by decide +kernel)⟩

/-- Alone a capital sigma ends no word, so that it is not found at the end of one. -/
theorem search_missesOccurrence_loneSigma :
    odosEntry ∈ odosIndex.entries ∧ "ΟΔΟΣ" ∈ odosEntry.texts ∧
      Text.trim "Σ".toList = ['Σ'] ∧ "ΟΔΟΣ".toList = ['Ο', 'Δ', 'Ο'] ++ ['Σ'] ++ [] ∧
      odosIndex.search "Σ" ["internal"] .all = [] := by
  refine ⟨by decide, by decide, by decide, by decide, ?_⟩
  decide +kernel

end SearchIndex

end ArtifactCatalog
