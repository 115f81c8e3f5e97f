/-
What can be wrong with settings. A value of the wrong kind is named together
with its path through the settings and with its source.
-/

import ArtifactCatalog.Settings.Value
import ArtifactCatalog.Text.Quoted

namespace ArtifactCatalog.Settings

inductive Found where
  | text (s : String)
  | integer (n : Int)
  | number (x : Number.Binary64)
  | boolean (b : Bool)
  | nothing
  | list
  | table
deriving DecidableEq, Repr

def Found.ofScalar : Scalar → Found
  | .text s => text s
  | .integer n => integer n
  | .number x => number x
  | .boolean b => boolean b

def Found.ofValue : Value → Found
  | .missing => nothing
  | .scalar _ content => ofScalar content
  | .list _ _ => list
  | .table _ _ => table

def pointedNumber (x : Number.Binary64) : List Char :=
  if x.text.all fun c => c == '-' || ('0' ≤ c && c ≤ '9') then x.text ++ ['.', '0'] else x.text

/-- How a message names what it found. `integerKind` is its word for integers. -/
def Found.phrase (integerKind : String) : Found → String
  | text s => "string " ++ Text.quoted s
  | integer n => integerKind ++ " `" ++ Number.intText n ++ "`"
  | number x => "floating point `" ++ String.ofList (pointedNumber x) ++ "`"
  | boolean b => "boolean `" ++ (Scalar.boolean b).print ++ "`"
  | nothing => "unit value"
  | list => "sequence"
  | table => "map"

inductive Wanted where
  | flag
  | integer
  | unsigned
  | text
deriving DecidableEq, Repr

def Wanted.phrase : Wanted → String
  | flag => "a boolean"
  | integer => "an integer"
  | unsigned => "an unsigned 64 bit or less integer"
  | text => "a string"

inductive Fault where
  | absent (key : String)
  | wrongKind (found : Found) (wanted : Wanted) (key : Option String) (origin : Option Origin)
  | wrongShape (found : Found) (wanted : String)
  | unknownName (kind name : String)
  | notAName (kind : String)
  | unreadableFile (path message : String)
deriving DecidableEq, Repr

namespace Fault

def message : Fault → String
  | absent key => "configuration property " ++ Text.quoted key ++ " not found"
  | wrongKind found wanted key origin =>
    "invalid type: " ++ found.phrase "64-bit integer" ++ ", expected " ++ wanted.phrase ++
      (match key with
        | some key => " for key `" ++ key ++ "`"
        | none => "") ++
      (match origin with
        | some origin => " in " ++ origin.text
        | none => "")
  | wrongShape found wanted =>
    "invalid type: " ++ found.phrase "integer" ++ ", expected " ++ wanted
  | unknownName kind name => "enum " ++ kind ++ " does not have variant constructor " ++ name
  | notAName kind =>
    "value of enum " ++ kind ++
      " should be represented by either string or table with exactly one key"
  | unreadableFile path message => message ++ " in " ++ path

/-- A key below another one; places in lists stand directly behind it. -/
def joinKey (outer : String) : Option String → String
  | none => outer
  | some inner => if inner.startsWith "[" then outer ++ inner else outer ++ "." ++ inner

def under (outer : String) : Fault → Fault
  | wrongKind found wanted key origin => wrongKind found wanted (some (joinKey outer key)) origin
  | absent key => absent (joinKey outer (some key))
  | other => other

end Fault

end ArtifactCatalog.Settings
