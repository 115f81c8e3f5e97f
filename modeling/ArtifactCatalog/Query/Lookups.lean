/-
The lookups that each query makes in its sources, in the order in which they
are made. A source that cannot be asked yields no lookup; one that fails was
still asked.
-/

import ArtifactCatalog.Query.Answers

namespace ArtifactCatalog

inductive Lookup where
  | search (query : String) (repositories : List String) (window : PageWindow)
  | release (repository : String) (release : Release)
  | versions (repository group artifact : String)
  | referrers (repository : String) (release : Release)
  | checksum (checksum : String)
deriving DecidableEq, Repr

namespace QuerySources

/-- The lookups that settle which repository speaks for a release. -/
def releaseLookups (sources : QuerySources) (observed : List String) (release : Release) :
    List Lookup :=
  (sources.registry.asked release observed).map (Lookup.release · release)

def observedOrNone (sources : QuerySources) : List String := sources.observed.toOption.getD []

def quickSearchLookups (sources : QuerySources) (query : String) : List Lookup :=
  let observed := sources.observedOrNone
  if observed.isEmpty then []
  else
    let found := (sources.search query observed .all).toOption.getD []
    Lookup.search query observed .all ::
      (releasesOf found).flatMap (sources.releaseLookups observed)

def findByChecksumLookups (checksum : String) : List Lookup := [.checksum checksum]

def listVersionsLookups (sources : QuerySources) (group artifact : String) : List Lookup :=
  sources.observedOrNone.map (Lookup.versions · group artifact)

def dependenciesLookups (sources : QuerySources) (release : Release) : List Lookup :=
  sources.releaseLookups sources.observedOrNone release

/-- The root first, then every other release of the expansion. -/
def expansionLookups (sources : QuerySources) (release : Release) (limit : UInt64) :
    List Lookup :=
  match sources.expansion release limit with
  | .ok tree =>
    (tree.nodes.map (·.release)).flatMap (sources.releaseLookups sources.observedOrNone)
  | .error _ => sources.dependenciesLookups release

def referrersLookups (sources : QuerySources) (release : Release) : List Lookup :=
  sources.observedOrNone.map (Lookup.referrers · release)

end QuerySources

end ArtifactCatalog
