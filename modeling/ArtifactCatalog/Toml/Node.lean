/-
Tables under construction. A table is stated by its own header, implied by the
header of a table inside it, or dotted, when dotted keys lead through it. A
name gets one value only, and a table stated once is never stated again.
-/

import ArtifactCatalog.Toml.Fault
import ArtifactCatalog.Toml.Value

namespace ArtifactCatalog.Toml

inductive TableKind where
  | stated
  | implied
  | dotted
deriving DecidableEq, Repr

inductive Node where
  | leaf (value : Value)
  | table (kind : TableKind) (entries : List (String × Node))
  /-- The tables of headers in double brackets, the latest first. -/
  | tables (tables : List (List (String × Node)))

abbrev Entries := List (String × Node)

def setNode (name : String) (node : Node) : Entries → Entries
  | [] => [(name, node)]
  | entry :: rest =>
    if entry.1 = name then (name, node) :: rest else entry :: setNode name node rest

abbrev TableChange := TableKind → Entries → Except Cause Entries

/-- Changes the table at a path. Tables that are not there are made; of several
tables of one name the latest counts. `trail` holds the names passed. -/
def changeAt (byKey : Bool) (change : TableChange) (trail : List String) :
    List String → TableChange
  | [], kind, entries => change kind entries
  | name :: path, _, entries =>
    let trail := trail ++ [name]
    match entries.lookup name with
    | none => do
      let kind := if byKey then TableKind.dotted else .implied
      let inner ← changeAt byKey change trail path kind []
      return setNode name (.table kind inner) entries
    | some (.leaf value) => .error (.notATable trail value.kind)
    | some (.tables []) => .error (.duplicateKey name none)
    | some (.tables (latest :: others)) => do
      let inner ← changeAt byKey change trail path .stated latest
      return setNode name (.tables (inner :: others)) entries
    | some (.table kind inner) =>
      if byKey ∧ kind = .stated then .error (.duplicateKey name none)
      else do
        let inner ← changeAt byKey change trail path kind inner
        return setNode name (.table kind inner) entries

/-- Adds a value under a key that stands in a table. `home` is the path of that
table where a fault is to name it. -/
def addValue (home : Option (List String)) (path : List String) (name : String)
    (value : Value) : TableChange :=
  changeAt true
    (fun kind entries =>
      if (kind == .dotted) == path.isEmpty then .error (.duplicateKey name none)
      else if (entries.lookup name).isSome then .error (.duplicateKey name home)
      else .ok (entries ++ [(name, .leaf value)]))
    [] path

def stateTable (path : List String) (name : String) : TableChange :=
  changeAt false
    (fun _ entries =>
      match entries.lookup name with
      | none => .ok (entries ++ [(name, .table .stated [])])
      | some (.table .implied inner) => .ok (setNode name (.table .stated inner) entries)
      | some _ => .error (.duplicateKey name (some path)))
    [] path

def beginTable (path : List String) (name : String) : TableChange :=
  changeAt false
    (fun _ entries =>
      match entries.lookup name with
      | none => .ok (entries ++ [(name, .tables [[]])])
      | some (.tables tables) => .ok (setNode name (.tables ([] :: tables)) entries)
      | some _ => .error (.duplicateKey name (some path)))
    [] path

mutual

def Node.toValue : Node → Value
  | .leaf value => value
  | .table _ entries => .table (entriesToValues entries)
  | .tables tables => .array (tablesToValues tables).reverse

def entriesToValues : Entries → List (String × Value)
  | [] => []
  | (name, node) :: rest => (name, node.toValue) :: entriesToValues rest

def tablesToValues : List Entries → List Value
  | [] => []
  | entries :: rest => .table (entriesToValues entries) :: tablesToValues rest

end

end ArtifactCatalog.Toml
