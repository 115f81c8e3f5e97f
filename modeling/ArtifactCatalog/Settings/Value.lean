/-
Values of settings as their sources give them, before a setting takes them.
Each scalar and list knows the source it came from, so that a fault can name it.
-/

import ArtifactCatalog.Number.Binary64
import ArtifactCatalog.Number.Text

namespace ArtifactCatalog.Settings

inductive Origin where
  | file (path : String)
  | environment
deriving DecidableEq, Repr

def Origin.text : Origin → String
  | file path => path
  | environment => "the environment"

inductive Scalar where
  | text (s : String)
  | integer (n : Int)
  | number (x : Number.Binary64)
  | boolean (b : Bool)
deriving DecidableEq, Repr

inductive Value where
  | missing
  | scalar (origin : Origin) (content : Scalar)
  | list (origin : Option Origin) (items : List Value)
  | table (origin : Option Origin) (entries : List (String × Value))
deriving Repr

/-- The text of a scalar: numbers are written again, so that their spelling is lost. -/
def Scalar.print : Scalar → String
  | text s => s
  | integer n => Number.intText n
  | number x => String.ofList x.text
  | boolean b => if b then "true" else "false"

namespace Value

def origin? : Value → Option Origin
  | missing => none
  | scalar origin _ => some origin
  | list origin _ | table origin _ => origin

def entries : Value → List (String × Value)
  | table _ entries => entries
  | _ => []

end Value

def setEntry (name : String) (value : Value) : List (String × Value) → List (String × Value)
  | [] => [(name, value)]
  | entry :: rest =>
    if entry.1 = name then (name, value) :: rest else entry :: setEntry name value rest

theorem lookup_setEntry_self (name : String) (value : Value) (entries : List (String × Value)) :
    (setEntry name value entries).lookup name = some value := by
  induction entries with
  | nil => simp [setEntry]
  | cons entry rest ih =>
    by_cases same : entry.1 = name
    · simp [setEntry, same]
    · have differs : (name == entry.1) = false := by simpa using fun h => same h.symm
      rw [setEntry, if_neg same, List.lookup_cons, differs]
      exact ih

theorem lookup_setEntry_of_ne {name other : String} (value : Value)
    (differs : other ≠ name) (entries : List (String × Value)) :
    (setEntry name value entries).lookup other = entries.lookup other := by
  induction entries with
  | nil => simp [setEntry, differs]
  | cons entry rest ih =>
    by_cases same : entry.1 = name
    · have away : (other == entry.1) = false := by simpa [same] using differs
      have gone : (other == name) = false := by simpa using differs
      rw [setEntry, if_pos same, List.lookup_cons, gone, List.lookup_cons, away]
    · rw [setEntry, if_neg same, List.lookup_cons, List.lookup_cons, ih]

end ArtifactCatalog.Settings
