/-
Layers of settings. A later layer is laid over an earlier one: tables are
merged name by name, everything else is replaced. Names are kept in lower case.
A name at the top of a layer may be a whole path: names with dots between them
and places of lists in brackets.
-/

import ArtifactCatalog.Number.Decimal
import ArtifactCatalog.Settings.Value
import ArtifactCatalog.Text.Blank
import ArtifactCatalog.Text.Case
import ArtifactCatalog.Text.Cut

namespace ArtifactCatalog.Settings

/-! ### Paths -/

/-- One step of a path, from a table by name or from a list by place. Places below
zero count from the end of the list. -/
inductive Step where
  | name (name : List Char)
  | place (place : Int)
deriving DecidableEq, Repr

def isNameChar (c : Char) : Bool :=
  Text.isAsciiLetter c || Text.isAsciiDigit c || c == ' ' || c == '_' || c == '-'

/-- The place that stands in brackets, an integer of 64 bits without a plus sign. -/
def placeOf? (inner : List Char) : Option Int :=
  let digits := Text.stripWhile Text.isGap inner
  if digits.head? = some '+' then none else Number.parseInt64? digits

def readSteps : Nat → List Char → Option (List Step)
  | _, [] => some []
  | 0, _ => none
  | fuel + 1, '.' :: rest =>
    let name := rest.takeWhile isNameChar
    if name.isEmpty then none
    else (readSteps fuel (rest.dropWhile isNameChar)).map (.name name :: ·)
  | fuel + 1, '[' :: rest =>
    match Text.cutFirst ']' rest with
    | none => none
    | some (inner, rest) =>
      match placeOf? inner with
      | some place => (readSteps fuel rest).map (.place place :: ·)
      | none => none
  | _ + 1, _ => none

/-- The steps of a path. A text that is no path is a single name. -/
def pathSteps (s : List Char) : List Step :=
  let first := s.takeWhile isNameChar
  let rest := s.dropWhile isNameChar
  if first.isEmpty then [.name s]
  else
    match readSteps rest.length rest with
    | some steps => .name first :: steps
    | none => [.name s]

/-! ### Laying values over each other -/

def normalName (name : List Char) : String := String.ofList (Text.lower name)

mutual

def Value.over (old : Option Value) : Value → Value
  | .table _ entries =>
    match old with
    | some old => if entries.isEmpty then old else .table none (overEntries old.entries entries)
    | none => .table none (overEntries [] entries)
  | value => value

def overEntries (known : List (String × Value)) :
    List (String × Value) → List (String × Value)
  | [] => known
  | (name, value) :: rest =>
    let name := normalName name.toList
    overEntries (setEntry name (Value.over (known.lookup name) value) known) rest

end

def Value.items : Value → List Value
  | .list _ items => items
  | _ => []

/-- Items among which there is one at the place, and where it is from the front.
Missing items fill up the list at the end or, for a place below zero, in front. -/
def withPlace (place : Int) (items : List Value) : List Value × Nat :=
  if 0 ≤ place then
    (items ++ List.replicate (place.toNat + 1 - items.length) Value.missing, place.toNat)
  else
    (List.replicate (place.natAbs - items.length) Value.missing ++ items,
      items.length - place.natAbs)

/-- Lays a value over what a path leads to; whatever the path needs is made. -/
def putAt (value : Value) : List Step → Option Value → Value
  | [], old => Value.over old value
  | .name name :: steps, old =>
    let known := (old.map Value.entries).getD []
    let name := normalName name
    .table none (setEntry name (putAt value steps (known.lookup name)) known)
  | [.place place], old =>
    let (items, index) := withPlace place ((old.map Value.items).getD [])
    .list none (items.set index value)
  | .place place :: steps, old =>
    let (items, index) := withPlace place ((old.map Value.items).getD [])
    .list none (items.set index (putAt value steps items[index]?))

def putNamed (root : Value) (entry : String × Value) : Value :=
  putAt entry.2 (pathSteps entry.1.toList) (some root)

/-- The table that layers make, the earliest layer first. -/
def layered (layers : List (List (String × Value))) : List (String × Value) :=
  (layers.flatten.foldl putNamed (.table none [])).entries

end ArtifactCatalog.Settings
