/-
Reading TOML documents: lines with a key and its value, and headers that name
the table of the lines below them.
-/

import ArtifactCatalog.Toml.Moment
import ArtifactCatalog.Toml.Node
import ArtifactCatalog.Toml.Number
import ArtifactCatalog.Toml.Text

namespace ArtifactCatalog.Toml

/-- How deep arrays and inline tables may nest, and how long a key may be. -/
def nestingLimit : Nat := 79

def atPlace {α : Type} (s : List Char) : Except Cause α → Except Fault α
  | .ok value => .ok value
  | .error cause => failAt cause s

def readWord? (s : List Char) : Option (Value × List Char) :=
  match s with
  | 't' :: 'r' :: 'u' :: 'e' :: rest => some (.boolean true, rest)
  | 'f' :: 'a' :: 'l' :: 's' :: 'e' :: rest => some (.boolean false, rest)
  | 'i' :: 'n' :: 'f' :: rest => some (.number (.infinite false), rest)
  | 'n' :: 'a' :: 'n' :: rest => some (.number .undefined, rest)
  | _ => none

def readNumeric (s : List Char) : Except Fault (Value × List Char) :=
  match takeMoment? s with
  | some (some text, rest) => .ok (.moment (String.ofList text), rest)
  | some (none, _) => failAt .moment s
  | none => readNumber s

def readKeyAndSign (s : List Char) : Except Fault (List String × List Char) := do
  let (key, rest) ← readKey (nestingLimit + 1) s
  match rest with
  | '=' :: rest => return (key, skipBlanks rest)
  | rest => failAt .equalsSign rest

mutual

/-- Reads one value; `depth` more levels of nesting are allowed. -/
def readValue : Nat → Nat → List Char → Except Fault (Value × List Char)
  | 0, _, s => failAt .nesting s
  | fuel + 1, depth, s =>
    match readText? s with
    | some read => read.map fun (text, rest) => (.text (String.ofList text), rest)
    | none =>
      match s with
      | [] => failAt .value []
      | c :: rest =>
        if c = '[' then
          match depth with
          | 0 => failAt .nesting s
          | depth + 1 =>
            (readItems fuel depth rest).map fun (items, rest) => (.array items, rest)
        else if c = '\x7b' then
          match depth with
          | 0 => failAt .nesting s
          | depth + 1 =>
            match skipBlanks rest with
            | '\x7d' :: rest => .ok (.table [], rest)
            | rest => (readPairs fuel depth [] rest).map fun (entries, rest) =>
              (.table (entriesToValues entries), rest)
        else if c = '+' ∨ c = '-' ∨ Text.isAsciiDigit c then readNumeric s
        else
          match readWord? s with
          | some read => .ok read
          | none => failAt .value s

def readItems : Nat → Nat → List Char → Except Fault (List Value × List Char)
  | 0, _, s => failAt .nesting s
  | fuel + 1, depth, s =>
    match skipLines s.length s with
    | ']' :: rest => .ok ([], rest)
    | [] => failAt .array []
    | start => do
      let (item, rest) ← readValue fuel depth start
      match skipLines rest.length rest with
      | ',' :: rest => do
        let (items, rest) ← readItems fuel depth rest
        return (item :: items, rest)
      | ']' :: rest => return ([item], rest)
      | rest => failAt .array rest

def readPairs : Nat → Nat → Entries → List Char → Except Fault (Entries × List Char)
  | 0, _, _, s => failAt .nesting s
  | fuel + 1, depth, known, s => do
    let (key, rest) ← readKeyAndSign s
    let (value, rest) ← readValue fuel depth rest
    let known ← atPlace s (addValue none key.dropLast (key.getLast?.getD "") value .stated known)
    match skipBlanks rest with
    | ',' :: rest => readPairs fuel depth known rest
    | '\x7d' :: rest => return (known, rest)
    | rest => failAt .inlineTable rest

end

/-- A document as far as it is read: the root, and the path of the table that
takes the next lines. -/
structure Draft where
  root : Entries := []
  home : List String := []

def readHeader (draft : Draft) (start s : List Char) : Except Fault (Draft × List Char) :=
  match s with
  | '[' :: rest => do
    let (key, rest) ← readKey (nestingLimit + 1) rest
    match rest with
    | ']' :: ']' :: rest => do
      let root ← atPlace start
        (beginTable key.dropLast (key.getLast?.getD "") .stated draft.root)
      return ({ root, home := key }, ← endLine rest)
    | rest => failAt .arrayHeader rest
  | rest => do
    let (key, rest) ← readKey (nestingLimit + 1) rest
    match rest with
    | ']' :: rest => do
      let root ← atPlace start
        (stateTable key.dropLast (key.getLast?.getD "") .stated draft.root)
      return ({ root, home := key }, ← endLine rest)
    | rest => failAt .tableHeader rest

def readLine (draft : Draft) (s : List Char) : Except Fault (Draft × List Char) := do
  let (key, afterSign) ← readKeyAndSign s
  let (value, rest) ← readValue (2 * afterSign.length + 2) nestingLimit afterSign
  let rest ← endLine rest
  let add := addValue (some draft.home) key.dropLast (key.getLast?.getD "") value
  let root ← atPlace s (changeAt false add [] draft.home .stated draft.root)
  return ({ draft with root }, rest)

/-- Reads all lines; `fuel` exceeds their number. -/
def readLines : Nat → Draft → List Char → Except Fault Draft
  | 0, _, s => failAt .nesting s
  | fuel + 1, draft, s =>
    match skipLines s.length s with
    | [] => .ok draft
    | '[' :: rest => do
      let (draft, rest) ← readHeader draft ('[' :: rest) rest
      readLines fuel draft rest
    | start => do
      let (draft, rest) ← readLine draft start
      readLines fuel draft rest

def read (s : List Char) : Except Fault (List (String × Value)) :=
  (readLines (s.length + 1) {} s).map fun draft => entriesToValues draft.root

end ArtifactCatalog.Toml
