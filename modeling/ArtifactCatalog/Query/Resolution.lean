/-
Which repository speaks for a release. Repositories are asked in order, and the
first that holds metadata decides; one that fails counts as holding nothing.
-/

import ArtifactCatalog.LocatedArtifact
import ArtifactCatalog.Registry

namespace ArtifactCatalog.Registry

/-- The metadata that one repository holds; a failing one holds nothing. -/
def held? (registry : Registry) (repository : String) (release : Release) :
    Option ReleaseMetadata :=
  match registry.release? repository release with
  | .ok metadata => metadata
  | .error _ => none

def firstHeld? (registry : Registry) (repositories : List String) (release : Release) :
    Option (String × ReleaseMetadata) :=
  repositories.findSome? fun repository =>
    (registry.held? repository release).map (repository, ·)

def asked (registry : Registry) (release : Release) : List String → List String
  | [] => []
  | repository :: rest =>
    if (registry.held? repository release).isSome then [repository]
    else repository :: registry.asked release rest

def dependencies? (registry : Registry) (repositories : List String) (release : Release) :
    Option (List Dependency) :=
  (registry.firstHeld? repositories release).map fun (_, metadata) =>
    metadata.normalizedDependencies

/-- A release as an answer: from the first repository that holds it with the
packaging stated there, otherwise from the first repository with the default. -/
def locate (registry : Registry) (repositories : List String) (release : Release) :
    LocatedArtifact :=
  let (repository, packaging) :=
    match registry.firstHeld? repositories release with
    | some (repository, metadata) => (repository, metadata.packaging?.getD defaultPackaging)
    | none => (repositories.head?.getD "", defaultPackaging)
  { repository
    group := release.group
    artifact := release.artifact
    version := release.version
    packaging }

def referrersAcross (registry : Registry) (repositories : List String) (release : Release) :
    List (String × Referrer) :=
  repositories.flatMap fun repository =>
    match registry.referrersOf repository release with
    | .ok referrers => referrers.map (repository, ·)
    | .error _ => []

def versionsAcross (registry : Registry) (repositories : List String)
    (group artifact : String) : List (String × String) :=
  repositories.flatMap fun repository =>
    match registry.versionsOf repository group artifact with
    | .ok versions => versions.map (repository, ·)
    | .error _ => []

def namedReleases (registry : Registry) : List Release :=
  registry.metadata.flatMap fun (_, metadata) =>
    metadata.dependencies.map Dependency.release

private theorem mem_of_lookup {κ ν : Type} [BEq κ] [LawfulBEq κ] {key : κ} {value : ν}
    {entries : List (κ × ν)} (found : entries.lookup key = some value) :
    (key, value) ∈ entries := by
  induction entries with
  | nil => simp at found
  | cons entry rest ih =>
    obtain ⟨other, old⟩ := entry
    by_cases same : key = other
    · subst same
      simp at found
      simp [found]
    · have differs : (key == other) = false := beq_eq_false_iff_ne.2 same
      rw [List.lookup_cons, differs] at found
      exact List.mem_cons_of_mem _ (ih found)

theorem mem_metadata_of_held? {registry : Registry} {repository : String} {release : Release}
    {metadata : ReleaseMetadata} (held : registry.held? repository release = some metadata) :
    (({ repository, release } : ReleasePlace), metadata) ∈ registry.metadata := by
  unfold held? release? answer at held
  by_cases fails : repository ∈ registry.failing
  · simp [fails] at held
  · simp only [fails, if_false] at held
    exact mem_of_lookup held

theorem held?_of_firstHeld? {registry : Registry} {repositories : List String}
    {release : Release} {repository : String} {metadata : ReleaseMetadata}
    (first : registry.firstHeld? repositories release = some (repository, metadata)) :
    registry.held? repository release = some metadata := by
  obtain ⟨asked, -, found⟩ := List.exists_of_findSome?_eq_some first
  obtain ⟨held, isHeld, same⟩ := Option.map_eq_some_iff.1 found
  cases same
  exact isHeld

theorem release_mem_namedReleases {registry : Registry} {repositories : List String}
    {release : Release} {dependencies : List Dependency}
    (declared : registry.dependencies? repositories release = some dependencies)
    {dependency : Dependency} (member : dependency ∈ dependencies) :
    dependency.release ∈ registry.namedReleases := by
  obtain ⟨⟨repository, metadata⟩, first, rfl⟩ := Option.map_eq_some_iff.1 declared
  obtain ⟨raw, isRaw, rfl⟩ := List.mem_map.1 member
  apply List.mem_flatMap.2
  exact ⟨_, mem_metadata_of_held? (held?_of_firstHeld? first),
    List.mem_map.2 ⟨raw, isRaw, rfl⟩⟩

end ArtifactCatalog.Registry
