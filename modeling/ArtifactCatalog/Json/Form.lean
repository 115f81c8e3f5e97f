/-
Types with a JSON form. A record is written as an object and read from an
object by name, or from a list by place. Fields that a record does not have are
skipped; a list must not be longer than the record.
-/

import ArtifactCatalog.Json.Value

namespace ArtifactCatalog

class JsonForm (α : Type) where
  write : α → Json
  read? : Json → Option α

namespace JsonForm

instance : JsonForm String where
  write := .text
  read?
    | .text s => some s
    | _ => none

instance : JsonForm Bool where
  write := .boolean
  read?
    | .boolean b => some b
    | _ => none

def readBelow (limit : Nat) : Json → Option Nat
  | .integer n => if 0 ≤ n ∧ n < limit then some n.toNat else none
  | _ => none

instance : JsonForm UInt64 where
  write n := .integer n.toNat
  read? j := (readBelow UInt64.size j).map UInt64.ofNat

instance : JsonForm UInt32 where
  write n := .integer n.toNat
  read? j := (readBelow UInt32.size j).map UInt32.ofNat

def readItems {α : Type} [JsonForm α] : List Json → Option (List α)
  | [] => some []
  | j :: rest => do
    let item ← read? j
    let items ← readItems rest
    return item :: items

instance {α : Type} [JsonForm α] : JsonForm (List α) where
  write items := .list (items.map write)
  read?
    | .list items => readItems items
    | _ => none

instance {α : Type} [JsonForm α] : JsonForm (Option α) where
  write
    | some value => write value
    | none => .null
  read?
    | .null => some none
    | j => (read? j).map some

end JsonForm

/-! ### Records -/

def Json.field {α : Type} [JsonForm α] (name : String) (value : α) : List (String × Json) :=
  [(name, JsonForm.write value)]

def Json.fieldIfPresent {α : Type} [JsonForm α] (name : String) :
    Option α → List (String × Json)
  | some value => [(name, JsonForm.write value)]
  | none => []

def Json.fieldIfNonempty {α : Type} [JsonForm α] (name : String) :
    List α → List (String × Json)
  | [] => []
  | values => [(name, JsonForm.write values)]

inductive FieldSource where
  | named (fields : List (String × Json))
  | placed (items : List Json)

def FieldSource.of? : Json → Option FieldSource
  | .object fields => some (.named fields)
  | .list items => some (.placed items)
  | _ => none

/-- A reader of record fields, which are taken in the order of the record. -/
abbrev FieldReader (α : Type) := FieldSource → Option (α × FieldSource)

namespace FieldReader

/-- The next field, `none` when the source does not have it. -/
def next? (name : String) : FieldSource → Option Json × FieldSource
  | .named fields => (fields.lookup name, .named fields)
  | .placed [] => (none, .placed [])
  | .placed (item :: rest) => (some item, .placed rest)

def pure {α : Type} (value : α) : FieldReader α := fun source => some (value, source)

def bind {α β : Type} (first : FieldReader α) (second : α → FieldReader β) : FieldReader β :=
  fun source =>
    match first source with
    | some (value, rest) => second value rest
    | none => none

instance : Monad FieldReader where
  pure := pure
  bind := bind

def required {α : Type} [JsonForm α] (name : String) : FieldReader α := fun source =>
  match next? name source with
  | (some j, rest) => (JsonForm.read? j).map (·, rest)
  | (none, _) => none

def defaulted {α : Type} [JsonForm α] (name : String) (value : α) : FieldReader α := fun source =>
  match next? name source with
  | (some j, rest) => (JsonForm.read? j).map (·, rest)
  | (none, rest) => some (value, rest)

/-- A field whose absence by name means an absent value; by place it must be there. -/
def nullable {α : Type} [JsonForm α] (name : String) : FieldReader (Option α) := fun source =>
  match source, next? name source with
  | _, (some j, rest) => (JsonForm.read? j).map (·, rest)
  | .named _, (none, rest) => some (none, rest)
  | .placed _, (none, _) => none

def run {α : Type} (reader : FieldReader α) (source : FieldSource) : Option α :=
  match reader source with
  | some (value, .named _) => some value
  | some (value, .placed []) => some value
  | _ => none

end FieldReader

def Json.readRecord {α : Type} (reader : FieldReader α) (j : Json) : Option α :=
  (FieldSource.of? j).bind reader.run

end ArtifactCatalog
