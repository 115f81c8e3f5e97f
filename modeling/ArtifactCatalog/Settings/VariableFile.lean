/-
Files that set environment variables, one a line: a name, an equals sign and a
value. Texts in quotes may go over several lines; a value may refer to other
variables. A name that has a value already keeps it, and everything from the
first faulty line on is left alone.
-/

import ArtifactCatalog.Settings.Environment
import ArtifactCatalog.Settings.File
import ArtifactCatalog.Text.Alphanumeric
import ArtifactCatalog.Text.Blank

namespace ArtifactCatalog.Settings.VariableFile

/-! ### Lines -/

def byteLines : List UInt8 → List (List UInt8)
  | [] => []
  | byte :: rest =>
    if byte = 10 then [byte] :: byteLines rest
    else
      match byteLines rest with
      | [] => [[byte]]
      | line :: lines => (byte :: line) :: lines

inductive Place where
  | plain
  | blank
  | escape
  | singleQuotes
  | singleQuotesEscape
  | doubleQuotes
  | doubleQuotesEscape
deriving DecidableEq, Repr

def Place.behind (c : Char) (otherwise : Place) : Place :=
  if c = '\\' then escape
  else if c = '"' then doubleQuotes
  else if c = '\'' then singleQuotes
  else otherwise

def Place.next (place : Place) (c : Char) : Place :=
  match place with
  | plain =>
    if Text.isBlank c && c != '\n' && c != '\r' then blank else behind c plain
  | blank => behind c plain
  | escape => plain
  | singleQuotes =>
    if c = '\\' then singleQuotesEscape else if c = '\'' then plain else singleQuotes
  | singleQuotesEscape => singleQuotes
  | doubleQuotes =>
    if c = '\\' then doubleQuotesEscape else if c = '"' then plain else doubleQuotes
  | doubleQuotesEscape => doubleQuotes

/-- The part of a line in front of its comment, and the place at its end if it
has no comment. -/
def scanLine (place : Place) : List Char → List Char × Option Place
  | [] => ([], some place)
  | c :: rest =>
    if place = .blank ∧ c = '#' then ([], none)
    else
      let (kept, final) := scanLine (place.next c) rest
      (c :: kept, final)

def withoutLineEnd (line : List Char) : List Char :=
  match line.reverse with
  | '\n' :: '\r' :: rest => rest.reverse
  | '\n' :: rest => rest.reverse
  | _ => line

/-- Puts lines that quotes hold together into one; `begun` is what is read of
the current one. Nothing stands for a fault, and ends the list. -/
def joinLines (begun : List Char) (place : Place) :
    List (Option (List Char)) → List (Option (List Char))
  | [] => if place = .plain then [] else [none]
  | none :: _ => [none]
  | some line :: rest =>
    if (Text.trimStart (begun ++ line)).head? = some '#' then
      some [] :: joinLines [] .plain rest
    else
      match scanLine place line with
      | (kept, none) => some (begun ++ kept) :: joinLines [] .plain rest
      | (_, some .plain) => some (withoutLineEnd (begun ++ line)) :: joinLines [] .plain rest
      | (_, some place) => joinLines (begun ++ line) place rest

def lines (bytes : List UInt8) : List (Option (List Char)) :=
  let decoded := (byteLines bytes).map Text.Utf8.decode?
  match decoded with
  | some first :: rest => joinLines [] .plain (some (withoutMark first) :: rest)
  | other => joinLines [] .plain other

/-! ### Values -/

/-- Where a value stands; `quoted` tells whether double quotes are open. -/
inductive Mode where
  | plain (quoted : Bool)
  | escaped (quoted : Bool)
  | literal
  | reference (quoted : Bool) (name : List Char)
  | bracedReference (quoted : Bool) (name : List Char)
  | ended
deriving DecidableEq, Repr

def escapedChar? (c : Char) : Option Char :=
  if c = 'n' then some '\n'
  else if c ∈ ['\\', '\'', '"', '$', ' '] then some c
  else none

/-- Reads a value from a mode on; `valueOf` gives the values of names. -/
def readFrom (valueOf : List Char → List Char) : Mode → List Char → Option (List Char)
  | .plain quoted, [] | .escaped quoted, [] => if quoted then none else some []
  | .literal, [] | .bracedReference .., [] => none
  | .reference quoted name, [] => if quoted then none else some (valueOf name)
  | .ended, [] => some []
  | .ended, c :: rest =>
    if Text.isGap c then readFrom valueOf .ended rest
    else if c = '#' then some []
    else none
  | .escaped quoted, c :: rest => do
    let meant ← escapedChar? c
    return meant :: (← readFrom valueOf (.plain quoted) rest)
  | .literal, c :: rest =>
    if c = '\'' then readFrom valueOf (.plain false) rest
    else (readFrom valueOf .literal rest).map (c :: ·)
  | .reference quoted name, c :: rest =>
    if Text.isAlphanumeric c then readFrom valueOf (.reference quoted (name ++ [c])) rest
    else if c = '\x7b' ∧ name = [] then readFrom valueOf (.bracedReference quoted []) rest
    else if c = '$' then
      (readFrom valueOf (.reference quoted []) rest).map (valueOf name ++ ·)
    else (readFrom valueOf (.plain quoted) rest).map (valueOf name ++ c :: ·)
  | .bracedReference quoted name, c :: rest =>
    if c = '\x7d' then (readFrom valueOf (.plain quoted) rest).map (valueOf name ++ ·)
    else readFrom valueOf (.bracedReference quoted (name ++ [c])) rest
  | .plain quoted, c :: rest =>
    if c = '$' then readFrom valueOf (.reference quoted []) rest
    else if c = '\\' then readFrom valueOf (.escaped quoted) rest
    else if c = '"' then readFrom valueOf (.plain (!quoted)) rest
    else if quoted then (readFrom valueOf (.plain true) rest).map (c :: ·)
    else if c = '\'' then readFrom valueOf .literal rest
    else if Text.isGap c then readFrom valueOf .ended rest
    else (readFrom valueOf (.plain false) rest).map (c :: ·)

/-! ### Assignments -/

def isNameChar (c : Char) : Bool :=
  Text.isAsciiLetter c || Text.isAsciiDigit c || c == '_' || c == '.'

def readName? (s : List Char) : Option (List Char × List Char) :=
  match s with
  | [] => none
  | c :: _ =>
    if Text.isAsciiLetter c || c == '_' then
      some (s.takeWhile isNameChar, Text.trimStart (s.dropWhile isNameChar))
    else none

def exportWord : List Char := "export".toList

def readAssignment? (s : List Char) : Option (List Char × List Char) := do
  let (name, rest) ← readName? s
  match rest with
  | '=' :: rest => return (name, Text.trimStart rest)
  | rest =>
    if name = exportWord then
      let (name, rest) ← readName? rest
      match rest with
      | '=' :: rest => return (name, Text.trimStart rest)
      | _ => none
    else none

def isIdle (s : List Char) : Bool := s.isEmpty || s.head? == some '#'

def valueIn (environment : Environment) (name : List Char) : List Char :=
  ((environment.lookup (String.ofList name)).getD "").toList

def addVariable (environment : Environment) (name value : String) : Environment :=
  match environment.lookup name with
  | some _ => environment
  | none => environment ++ [(name, value)]

/-- The environment behind a line, nothing if the line is faulty. -/
def applyLine? (environment : Environment) (line : List Char) : Option Environment :=
  let line := Text.trim line
  if isIdle line then some environment
  else do
    let (name, text) ← readAssignment? line
    let value ←
      if isIdle text then some []
      else readFrom (valueIn environment) (.plain false) text
    return addVariable environment (String.ofList name) (String.ofList value)

def applyLines (environment : Environment) : List (Option (List Char)) → Environment
  | [] => environment
  | none :: _ => environment
  | some line :: rest =>
    match applyLine? environment line with
    | some environment => applyLines environment rest
    | none => environment

def fileName : String := ".env"

/-- The paths at which the file is sought: in the current folder, then in each above it. -/
def paths (foldersAbove : Nat) : List String :=
  (List.range (foldersAbove + 1)).map fun level =>
    String.join (List.replicate level "../") ++ fileName

def extend (files : FileBytes) (foldersAbove : Nat) (environment : Environment) : Environment :=
  match (paths foldersAbove).findSome? files with
  | some bytes => applyLines environment (lines bytes)
  | none => environment

end ArtifactCatalog.Settings.VariableFile
