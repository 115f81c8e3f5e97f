/-
Blanks, line breaks and comments of TOML documents.
-/

import ArtifactCatalog.Toml.Fault

namespace ArtifactCatalog.Toml

def isBlank (c : Char) : Bool := c == ' ' || c.toNat == 9

def skipBlanks (s : List Char) : List Char := s.dropWhile isBlank

def isCommentChar (c : Char) : Bool := c.toNat == 9 || 0x20 ≤ c.toNat

def afterLineBreak? : List Char → Option (List Char)
  | '\n' :: rest => some rest
  | '\r' :: '\n' :: rest => some rest
  | _ => none

def skipComment : List Char → List Char
  | '#' :: rest => rest.dropWhile isCommentChar
  | s => s

/-- Ends a line: blanks, a comment, and a line break or the end of the text. -/
def endLine (s : List Char) : Except Fault (List Char) :=
  let afterBlanks := skipBlanks s
  let rest := skipComment afterBlanks
  if rest.isEmpty then .ok []
  else
    match afterLineBreak? rest with
    | some rest => .ok rest
    | none => failAt (if afterBlanks.head? = some '#' then .lineBreak else .lineEnd) rest

/-- Skips blanks, comments and line breaks; `fuel` bounds the number of lines. -/
def skipLines : Nat → List Char → List Char
  | 0, s => s
  | fuel + 1, s =>
    let rest := skipComment (skipBlanks s)
    match afterLineBreak? rest with
    | some rest => skipLines fuel rest
    | none => rest

end ArtifactCatalog.Toml
