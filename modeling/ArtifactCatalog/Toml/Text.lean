/-
Texts of TOML documents: basic ones with escapes and literal ones without, both
on one line between single marks or on several lines between triple ones.
-/

import ArtifactCatalog.Text.Hexadecimal
import ArtifactCatalog.Toml.Blank

namespace ArtifactCatalog.Toml

def isTextChar (c : Char) : Bool := c.toNat == 9 || (0x20 ≤ c.toNat && c.toNat != 0x7f)

def letterEscape? (c : Char) : Option Char :=
  if c = '"' ∨ c = '\\' then some c
  else if c = 'b' then some (Char.ofNat 8)
  else if c = 't' then some (Char.ofNat 9)
  else if c = 'n' then some (Char.ofNat 10)
  else if c = 'f' then some (Char.ofNat 12)
  else if c = 'r' then some (Char.ofNat 13)
  else none

def readCode (count : Nat) (s : List Char) : Except Fault (Char × List Char) :=
  match (s.take count).mapM Text.hexValue? with
  | none => failAt .escape s
  | some digits =>
    let code := digits.foldl (fun value d => 16 * value + d) 0
    if digits.length = count ∧ (code < 0xd800 ∨ (0xdfff < code ∧ code < 0x110000)) then
      .ok (Char.ofNat code, s.drop count)
    else failAt .escape s

/-- The character that an escape stands for; `s` follows the backslash. -/
def readEscape : List Char → Except Fault (Char × List Char)
  | 'u' :: rest => readCode 4 rest
  | 'U' :: rest => readCode 8 rest
  | c :: rest =>
    match letterEscape? c with
    | some d => .ok (d, rest)
    | none => failAt .escape (c :: rest)
  | [] => failAt .escape []

/-- Reads a basic text up to its closing mark; `taken` holds the characters
read, the latest first. -/
def readBasic : Nat → List Char → List Char → Except Fault (List Char × List Char)
  | 0, _, s => failAt .basicString s
  | _ + 1, taken, '"' :: rest => .ok (taken.reverse, rest)
  | fuel + 1, taken, '\\' :: rest => do
    let (c, rest) ← readEscape rest
    readBasic fuel (c :: taken) rest
  | fuel + 1, taken, c :: rest =>
    if isTextChar c then readBasic fuel (c :: taken) rest else failAt .basicString (c :: rest)
  | _ + 1, _, [] => failAt .basicString []

def readLiteral (s : List Char) : Except Fault (List Char × List Char) :=
  let isInside (c : Char) : Bool := isTextChar c && c.toNat != 0x27
  match s.dropWhile isInside with
  | [] => failAt .literalString []
  | c :: rest =>
    if c.toNat = 0x27 then .ok (s.takeWhile isInside, rest) else failAt .literalString (c :: rest)

/-- Splits closing marks from a text on several lines: the last three close it,
and at most two in front of them belong to it. -/
def takeClosing (mark : Char) (s : List Char) : Option (List Char × List Char) :=
  let count := (s.takeWhile (· == mark)).length
  if count < 3 then none
  else some (List.replicate (min count 5 - 3) mark, s.drop (min count 5))

/-- The rest behind a backslash at the end of a line: blanks and line breaks are
left out. -/
def afterLineEnd? (s : List Char) : Option (List Char) :=
  let rest := skipBlanks s
  match afterLineBreak? rest with
  | none => none
  | some rest => some (rest.dropWhile fun c => isBlank c || c == '\n' || c == '\r')

def readLongBasic : Nat → List Char → List Char → Except Fault (List Char × List Char)
  | 0, _, s => failAt .longBasicString s
  | _ + 1, _, [] => failAt .longBasicString []
  | fuel + 1, taken, c :: rest =>
    if c = '"' then
      match takeClosing '"' (c :: rest) with
      | some (marks, rest) => .ok (taken.reverse ++ marks, rest)
      | none => readLongBasic fuel (c :: taken) rest
    else if c = '\\' then
      match afterLineEnd? rest with
      | some rest => readLongBasic fuel taken rest
      | none => do
        let (d, rest) ← readEscape rest
        readLongBasic fuel (d :: taken) rest
    else
      match afterLineBreak? (c :: rest) with
      | some rest => readLongBasic fuel ('\n' :: taken) rest
      | none =>
        if isTextChar c then readLongBasic fuel (c :: taken) rest
        else failAt .longBasicString (c :: rest)

def literalMark : Char := Char.ofNat 0x27

def readLongLiteral : Nat → List Char → List Char → Except Fault (List Char × List Char)
  | 0, _, s => failAt .longLiteralString s
  | _ + 1, _, [] => failAt .longLiteralString []
  | fuel + 1, taken, c :: rest =>
    if c = literalMark then
      match takeClosing literalMark (c :: rest) with
      | some (marks, rest) => .ok (taken.reverse ++ marks, rest)
      | none => readLongLiteral fuel (c :: taken) rest
    else
      match afterLineBreak? (c :: rest) with
      | some rest => readLongLiteral fuel ('\n' :: taken) rest
      | none =>
        if isTextChar c then readLongLiteral fuel (c :: taken) rest
        else failAt .longLiteralString (c :: rest)

def skipFirstBreak (s : List Char) : List Char := (afterLineBreak? s).getD s

def readText? (s : List Char) : Option (Except Fault (List Char × List Char)) :=
  match s with
  | a :: rest =>
    if a = '"' then
      match rest with
      | '"' :: '"' :: rest => some (readLongBasic (rest.length + 1) [] (skipFirstBreak rest))
      | rest => some (readBasic (rest.length + 1) [] rest)
    else if a = literalMark then
      match rest with
      | b :: c :: more =>
        if b = literalMark ∧ c = literalMark then
          some (readLongLiteral (more.length + 1) [] (skipFirstBreak more))
        else some (readLiteral rest)
      | rest => some (readLiteral rest)
    else none
  | [] => none

/-! ### Keys -/

def isBareKeyChar (c : Char) : Bool :=
  ('a' ≤ c && c ≤ 'z') || ('A' ≤ c && c ≤ 'Z') || ('0' ≤ c && c ≤ '9') || c == '_' || c == '-'

def readKeyPart (s : List Char) : Except Fault (String × List Char) :=
  match s with
  | [] => failAt .key []
  | c :: rest =>
    if c = '"' then (readBasic (rest.length + 1) [] rest).map fun (key, rest) =>
      (String.ofList key, rest)
    else if c = literalMark then (readLiteral rest).map fun (key, rest) =>
      (String.ofList key, rest)
    else if isBareKeyChar c then
      .ok (String.ofList (s.takeWhile isBareKeyChar), s.dropWhile isBareKeyChar)
    else failAt .key s

def readKey : Nat → List Char → Except Fault (List String × List Char)
  | 0, s => failAt .nesting s
  | fuel + 1, s => do
    let (part, rest) ← readKeyPart (skipBlanks s)
    match skipBlanks rest with
    | '.' :: rest => do
      let (parts, rest) ← readKey fuel rest
      return (part :: parts, rest)
    | rest => return ([part], rest)

end ArtifactCatalog.Toml
