/-
Values of the JSON data format. Integers of 64 bits are kept as integers; any
other number is kept as it was written. An object lists each name once.
-/

namespace ArtifactCatalog

inductive Json where
  | null
  | boolean (value : Bool)
  | integer (value : Int)
  | decimal (written : String)
  | text (value : String)
  | list (items : List Json)
  | object (fields : List (String × Json))
deriving Repr, Inhabited

namespace Json

/-- Sets a field: a name that is present keeps its place and takes the new value. -/
def setField (name : String) (value : Json) :
    List (String × Json) → List (String × Json)
  | [] => [(name, value)]
  | (other, old) :: rest =>
    if other = name then (name, value) :: rest else (other, old) :: setField name value rest

def field? (name : String) : Json → Option Json
  | object fields => fields.lookup name
  | _ => none

end Json

end ArtifactCatalog
