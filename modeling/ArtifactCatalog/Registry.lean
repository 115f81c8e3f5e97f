/-
The registry of what each repository knows of releases: their metadata, the
versions of each project, the projects that refer to a release, and which
repositories fail. A lookup in a failing repository is an error.
-/

import ArtifactCatalog.Failure.Backend
import ArtifactCatalog.Metadata

namespace ArtifactCatalog

structure ReleasePlace where
  repository : String
  release : Release
deriving DecidableEq, Repr

structure ProjectPlace where
  repository : String
  group : String
  artifact : String
deriving DecidableEq, Repr

def putEntry {κ ν : Type} [DecidableEq κ] (key : κ) (value : ν) : List (κ × ν) → List (κ × ν)
  | [] => [(key, value)]
  | (other, old) :: rest =>
    if other = key then (key, value) :: rest else (other, old) :: putEntry key value rest

theorem lookup_putEntry {κ ν : Type} [DecidableEq κ] (key other : κ) (value : ν)
    (entries : List (κ × ν)) :
    (putEntry key value entries).lookup other =
      if other = key then some value else entries.lookup other := by
  induction entries with
  | nil =>
    by_cases same : other = key
    · simp [putEntry, same]
    · have differs : (other == key) = false := beq_eq_false_iff_ne.2 same
      simp [putEntry, List.lookup_cons, same, differs]
  | cons entry rest ih =>
    obtain ⟨first, old⟩ := entry
    by_cases atHead : first = key
    · subst atHead
      by_cases same : other = first
      · simp [putEntry, same]
      · have differs : (other == first) = false := beq_eq_false_iff_ne.2 same
        simp [putEntry, List.lookup_cons, same, differs]
    · simp only [putEntry, atHead, if_false, List.lookup_cons, ih]
      by_cases same : other = key
      · subst same
        have differs : (other == first) = false := by simp [Ne.symm atHead]
        simp [differs]
      · simp [same]

structure Registry where
  metadata : List (ReleasePlace × ReleaseMetadata) := []
  versions : List (ProjectPlace × List String) := []
  referrers : List (ReleasePlace × List Referrer) := []
  failing : List String := []
deriving DecidableEq, Repr

namespace Registry

/-- Records metadata under its version; a known version keeps its place. -/
def addRelease (registry : Registry) (repository group artifact : String)
    (metadata : ReleaseMetadata) : Registry :=
  let project : ProjectPlace := { repository, group, artifact }
  let known := (registry.versions.lookup project).getD []
  let versions := if metadata.version ∈ known then known else known ++ [metadata.version]
  let place : ReleasePlace :=
    { repository, release := { group, artifact, version := metadata.version } }
  { registry with
    versions := putEntry project versions registry.versions
    metadata := putEntry place metadata registry.metadata }

def addReferrer (registry : Registry) (repository : String) (release : Release)
    (referrer : Referrer) : Registry :=
  let place : ReleasePlace := { repository, release }
  let known := (registry.referrers.lookup place).getD []
  { registry with referrers := putEntry place (known ++ [referrer]) registry.referrers }

/-- From now on every lookup in the repository fails. -/
def fail (registry : Registry) (repository : String) : Registry :=
  { registry with failing := repository :: registry.failing }

def failureReason : String := "repository marked as failing"

def answer {α : Type} (registry : Registry) (repository : String) (value : α) :
    Except BackendError α :=
  if repository ∈ registry.failing then
    .error (.repositoryUnavailable repository failureReason)
  else .ok value

def release? (registry : Registry) (repository : String) (release : Release) :
    Except BackendError (Option ReleaseMetadata) :=
  registry.answer repository (registry.metadata.lookup { repository, release })

/-- The versions of a project in one repository, in the order of their first record. -/
def versionsOf (registry : Registry) (repository group artifact : String) :
    Except BackendError (List String) :=
  registry.answer repository
    ((registry.versions.lookup { repository, group, artifact }).getD [])

def referrersOf (registry : Registry) (repository : String) (release : Release) :
    Except BackendError (List Referrer) :=
  registry.answer repository ((registry.referrers.lookup { repository, release }).getD [])

end Registry

end ArtifactCatalog
