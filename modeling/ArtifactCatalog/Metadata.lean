/-
Metadata of a release in one repository: its declared dependencies, and facets
that describe it further. Facets are told apart by their identifiers.
-/

import ArtifactCatalog.Dependency

namespace ArtifactCatalog

/-! ### Properties -/

def ascendingNames : List (String × String) → Bool
  | [] => true
  | [_] => true
  | (a, _) :: (b, y) :: rest => a < b && ascendingNames ((b, y) :: rest)

def insertProperty (name value : String) : List (String × String) → List (String × String)
  | [] => [(name, value)]
  | (other, old) :: rest =>
    if name < other then (name, value) :: (other, old) :: rest
    else if name = other then (name, value) :: rest
    else (other, old) :: insertProperty name value rest

/-- Named texts, in ascending order of their names. -/
structure Properties where
  entries : List (String × String)
  ascending : ascendingNames entries = true
deriving DecidableEq, Repr

theorem ascendingNames_tail {entry : String × String} {rest : List (String × String)}
    (ascends : ascendingNames (entry :: rest) = true) : ascendingNames rest = true := by
  cases rest with
  | nil => rfl
  | cons next rest =>
    obtain ⟨a, x⟩ := entry
    obtain ⟨b, y⟩ := next
    simp only [ascendingNames, Bool.and_eq_true] at ascends
    exact ascends.2

theorem ascendingNames_insertProperty (name value : String) (entries : List (String × String))
    (ascends : ascendingNames entries = true) :
    ascendingNames (insertProperty name value entries) = true := by
  induction entries with
  | nil => rfl
  | cons entry rest ih =>
    obtain ⟨other, old⟩ := entry
    unfold insertProperty
    by_cases below : name < other
    · simp [below, ascendingNames, ascends]
    · by_cases same : name = other
      · subst same
        simp only [below, if_false, if_true]
        cases rest with
        | nil => rfl
        | cons next rest =>
          obtain ⟨b, y⟩ := next
          simpa [ascendingNames] using ascends
      · simp only [below, same, if_false]
        have above : other < name := Decidable.byContradiction fun notAbove =>
          same (String.le_antisymm (String.not_lt.1 notAbove) (String.not_lt.1 below))
        have inserted := ih (ascendingNames_tail ascends)
        cases rest with
        | nil => simp [insertProperty, ascendingNames, above]
        | cons next rest =>
          obtain ⟨b, y⟩ := next
          simp only [ascendingNames, Bool.and_eq_true, decide_eq_true_eq] at ascends
          unfold insertProperty at inserted ⊢
          by_cases belowNext : name < b
          · simp only [belowNext, if_true] at inserted ⊢
            simp [ascendingNames, above] at inserted ⊢
            exact inserted
          · by_cases sameNext : name = b
            · subst sameNext
              simp only [belowNext, if_false, if_true] at inserted ⊢
              simp [ascendingNames, above, inserted]
            · simp only [belowNext, sameNext, if_false] at inserted ⊢
              simp [ascendingNames, ascends.1, inserted]

namespace Properties

def empty : Properties := ⟨[], rfl⟩

def set (properties : Properties) (name value : String) : Properties :=
  ⟨insertProperty name value properties.entries,
    ascendingNames_insertProperty name value properties.entries properties.ascending⟩

def ofFields? : List (String × Json) → Option Properties
  | [] => some empty
  | (name, .text value) :: rest => (ofFields? rest).map (·.set name value)
  | _ => none

end Properties

instance : JsonForm Properties where
  write properties := .object (properties.entries.map fun (name, value) => (name, .text value))
  read?
    | .object fields => Properties.ofFields? fields
    | _ => none

/-! ### Facets -/

structure MavenFacet where
  group : Option String := none
  artifact : Option String := none
  packaging : Option String := none
deriving DecidableEq, Repr

def MavenFacet.identifier : String :=
  "org.apache.archiva.metadata.repository.storage.maven2.project"

inductive Facet where
  | maven (facet : MavenFacet)
  | generic (identifier : String) (properties : Properties)
deriving DecidableEq, Repr

def Facet.identifier : Facet → String
  | maven _ => MavenFacet.identifier
  | generic identifier _ => identifier

namespace MavenFacet

def fields (facet : MavenFacet) : List (String × Json) :=
  Json.fieldIfPresent "group_id" facet.group ++
  Json.fieldIfPresent "artifact_id" facet.artifact ++
  Json.fieldIfPresent "packaging" facet.packaging

def reader : FieldReader MavenFacet := do
  let group ← FieldReader.defaulted "group_id" none
  let artifact ← FieldReader.defaulted "artifact_id" none
  let packaging ← FieldReader.defaulted "packaging" none
  return { group, artifact, packaging }

end MavenFacet

instance : JsonForm MavenFacet where
  write facet := .object facet.fields
  read? := Json.readRecord MavenFacet.reader

/-- A facet states its kind as a further field, or as the first item of a list. -/
instance : JsonForm Facet where
  write
    | .maven facet => .object (Json.field "kind" "maven" ++ facet.fields)
    | .generic identifier properties => .object <|
      Json.field "kind" "generic" ++
      Json.field "facet_id" identifier ++
      Json.field "properties" properties
  read? := Json.readRecord fun source => do
    let (kind, rest) ← FieldReader.required (α := String) "kind" source
    if kind = "maven" then
      let (facet, rest) ← MavenFacet.reader rest
      return (.maven facet, rest)
    else if kind = "generic" then
      let (identifier, rest) ← FieldReader.required "facet_id" rest
      let (properties, rest) ← FieldReader.defaulted "properties" Properties.empty rest
      return (.generic identifier properties, rest)
    else none

/-! ### Release metadata -/

structure ReleaseMetadata where
  version : String
  dependencies : List Dependency := []
  facets : List Facet := []
deriving DecidableEq, Repr

namespace ReleaseMetadata

def addDependency (m : ReleaseMetadata) (dependency : Dependency) : ReleaseMetadata :=
  { m with dependencies := m.dependencies ++ [dependency] }

/-- Adds a facet at the end in place of all facets with its identifier. -/
def addFacet (m : ReleaseMetadata) (facet : Facet) : ReleaseMetadata :=
  { m with facets := m.facets.filter (·.identifier != facet.identifier) ++ [facet] }

def facet? (m : ReleaseMetadata) (identifier : String) : Option Facet :=
  m.facets.find? (·.identifier == identifier)

def mavenFacet? (m : ReleaseMetadata) : Option MavenFacet :=
  m.facets.findSome? fun
    | .maven facet => some facet
    | .generic .. => none

/-- The packaging that the Maven facet states, unless it is empty. -/
def packaging? (m : ReleaseMetadata) : Option String :=
  nonempty? (m.mavenFacet?.bind (·.packaging))

def normalizedDependencies (m : ReleaseMetadata) : List Dependency :=
  m.dependencies.map Dependency.normalized

end ReleaseMetadata

instance : JsonForm ReleaseMetadata where
  write m := .object <|
    Json.field "id" m.version ++
    Json.fieldIfNonempty "dependencies" m.dependencies ++
    Json.fieldIfNonempty "facets" m.facets
  read? := Json.readRecord do
    let version ← FieldReader.required "id"
    let dependencies ← FieldReader.defaulted "dependencies" []
    let facets ← FieldReader.defaulted "facets" []
    return { version, dependencies, facets }

end ArtifactCatalog
