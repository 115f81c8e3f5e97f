/-
Values of TOML documents. Dates and times are kept as their normal text.
-/

import ArtifactCatalog.Number.Binary64

namespace ArtifactCatalog.Toml

inductive Value where
  | text (s : String)
  | integer (n : Int)
  | number (x : Number.Binary64)
  | boolean (b : Bool)
  | moment (text : String)
  | array (items : List Value)
  | table (entries : List (String × Value))
deriving Repr, Inhabited

def Value.kind : Value → String
  | text _ => "string"
  | integer _ => "integer"
  | number _ => "float"
  | boolean _ => "boolean"
  | moment _ => "datetime"
  | array _ => "array"
  | table _ => "inline table"

end ArtifactCatalog.Toml
