/-
Reading settings from values. Scalars are converted where that makes sense:
texts may spell flags and numbers, numbers are rounded, and whatever is wanted
as a text is printed. A group of settings is a table by name or a list by place.
-/

import ArtifactCatalog.Checksum
import ArtifactCatalog.Number.Decimal
import ArtifactCatalog.Settings.Fault
import ArtifactCatalog.Text.Case

namespace ArtifactCatalog.Settings

/-! ### Scalars -/

def wrongKind {α : Type} (value : Value) (wanted : Wanted) : Except Fault α :=
  .error (.wrongKind (.ofValue value) wanted none value.origin?)

def readText : Value → Except Fault String
  | .scalar _ content => .ok content.print
  | value => wrongKind value .text

def trueWords : List String := ["1", "true", "on", "yes"]

def falseWords : List String := ["0", "false", "off", "no"]

def isNonzero : Number.Binary64 → Bool
  | .finite _ significand _ => significand != 0
  | _ => true

def readFlag : Value → Except Fault Bool
  | .scalar _ (.boolean b) => .ok b
  | .scalar _ (.integer n) => .ok (n != 0)
  | .scalar _ (.number x) => .ok (isNonzero x)
  | .scalar origin (.text s) =>
    let word := Text.lowerString s
    if word ∈ trueWords then .ok true
    else if word ∈ falseWords then .ok false
    else .error (.wrongKind (.text word) .flag none (some origin))
  | value => wrongKind value .flag

def greatestUnsigned : Nat := UInt64.size - 1

def readUnsigned : Value → Except Fault UInt64
  | .scalar _ (.boolean b) => .ok (if b then 1 else 0)
  | .scalar origin (.integer n) =>
    if 0 ≤ n then .ok (UInt64.ofNat n.toNat)
    else .error (.wrongKind (.integer n) .unsigned none (some origin))
  | .scalar _ (.number x) => .ok (UInt64.ofNat (x.roundToNat greatestUnsigned))
  | .scalar origin (.text s) =>
    let word := Text.lowerString s
    if word ∈ trueWords.drop 1 then .ok 1
    else if word ∈ falseWords.drop 1 then .ok 0
    else
      match Number.parseUnsigned? 64 s.toList with
      | some n => .ok (UInt64.ofNat n)
      | none => .error (.wrongKind (.text s) .integer none (some origin))
  | value => wrongKind value .integer

def readWord (value : Value) : Except Fault UInt32 := (readUnsigned value).map (·.toUInt32)

/-! ### Names -/

def algorithmNamed (name : String) : Except Fault Algorithm :=
  let matching := Algorithm.documentNames.find? fun known =>
    Text.lowerString known.1 == Text.lowerString name
  match matching with
  | some known => .ok known.2
  | none => .error (.unknownName "HashAlgorithm" name)

def readAlgorithm : Value → Except Fault Algorithm
  | .scalar _ (.text name) => algorithmNamed name
  | .table _ [(name, _)] => algorithmNamed name
  | _ => .error (.notAName "HashAlgorithm")

/-! ### Lists and groups -/

def placeKey (place : Nat) : String := "[" ++ Number.natText place ++ "]"

def readItemsFrom {α : Type} (read : Value → Except Fault α) :
    Nat → List Value → Except Fault (List α)
  | _, [] => .ok []
  | place, value :: rest => do
    let item ← (read value).mapError (Fault.under (placeKey place))
    let items ← readItemsFrom read (place + 1) rest
    return item :: items

def readList {α : Type} (read : Value → Except Fault α) : Value → Except Fault (List α)
  | .list _ items => readItemsFrom read 0 items
  | value => .error (.wrongShape (.ofValue value) "a sequence")

def readOptional {α : Type} (read : Value → Except Fault α) : Value → Except Fault (Option α)
  | .missing => .ok none
  | value => (read value).map some

/-- Where the settings of a group come from; `placed` counts the items taken. -/
inductive GroupSource where
  | named (entries : List (String × Value))
  | placed (count : Nat) (items : List Value)

/-- A reader of settings, which are taken in the order of their group. -/
abbrev GroupReader (α : Type) := StateT GroupSource (Except Fault) α

/-- The next setting of a group, `standard` if the group does not have it. -/
def setting {α : Type} (name : String) (read : Value → Except Fault α) (standard : α) :
    GroupReader α := fun source =>
  match source with
  | .named entries =>
    match entries.lookup name with
    | some value => ((read value).mapError (Fault.under name)).map (·, source)
    | none => .ok (standard, source)
  | .placed count (value :: rest) =>
    ((read value).mapError (Fault.under (placeKey count))).map (·, .placed (count + 1) rest)
  | .placed _ [] => .ok (standard, source)

def readGroup {α : Type} (kind : String) (reader : GroupReader α) : Value → Except Fault α
  | .table _ entries => (reader (.named entries)).map (·.1)
  | .list _ items => (reader (.placed 0 items)).map (·.1)
  | value => .error (.wrongShape (.ofValue value) kind)

end ArtifactCatalog.Settings
