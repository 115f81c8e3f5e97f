/-
Faults of TOML documents: what is wrong, and how much of the text is left at
the place where it shows. The message quotes the line with a mark below it.
-/

import ArtifactCatalog.Number.Text

namespace ArtifactCatalog.Toml

inductive Cause where
  | key
  | equalsSign
  | value
  | basicString
  | literalString
  | longBasicString
  | longLiteralString
  | escape
  | lineEnd
  | lineBreak
  | array
  | inlineTable
  | tableHeader
  | arrayHeader
  | digits
  | outOfRange
  | moment
  | nesting
  /-- A key that has a value already; the table is known where the key stands in a line. -/
  | duplicateKey (key : String) (table : Option (List String))
  | notATable (path : List String) (kind : String)
deriving DecidableEq, Repr

def Cause.message : Cause → String
  | key => "invalid key"
  | equalsSign => "expected `.`, `=`"
  | value => "invalid string\nexpected `\"`, `'`"
  | basicString => "invalid basic string"
  | literalString => "invalid literal string"
  | longBasicString => "invalid multiline basic string"
  | longLiteralString => "invalid multiline literal string"
  | escape =>
    "invalid escape sequence\nexpected `b`, `f`, `n`, `r`, `t`, `u`, `U`, `\\`, `\"`"
  | lineEnd => "expected newline, `#`"
  | lineBreak => "expected newline"
  | array => "invalid array\nexpected `]`"
  | inlineTable => "invalid inline table\nexpected `\x7d`"
  | tableHeader => "invalid table header\nexpected `.`, `]`"
  | arrayHeader => "invalid table header\nexpected `.`, `]]`"
  | digits => "invalid integer\nexpected digit"
  | outOfRange => "value is out of range"
  | moment => "invalid datetime"
  | nesting => "recursion limit exceeded"
  | duplicateKey name none => "duplicate key `" ++ name ++ "`"
  | duplicateKey name (some []) => "duplicate key `" ++ name ++ "` in document root"
  | duplicateKey name (some table) =>
    "duplicate key `" ++ name ++ "` in table `" ++ String.intercalate "." table ++ "`"
  | notATable path kind =>
    "dotted key `" ++ String.intercalate "." path ++
      "` attempted to extend non-table type (" ++ kind ++ ")"

structure Fault where
  cause : Cause
  /-- The number of characters from the place of the fault to the end. -/
  left : Nat
deriving DecidableEq, Repr

namespace Fault

/-- The line and the column of the fault, both counted from zero. Behind the
last character the place counts as one further than that character. -/
def position (fault : Fault) (text : List Char) : Nat × Nat :=
  let index := text.length - fault.left
  let safe := min index (text.length - 1)
  let before := text.take safe
  let column := (before.reverse.takeWhile (· != '\n')).length
  ((before.filter (· == '\n')).length, column + (index - safe))

def message (fault : Fault) (text : List Char) : String :=
  let (line, column) := fault.position text
  let lineText := (text.splitOn '\n').getD line []
  let lineNumber := Number.natDigits (line + 1)
  let gutter := List.replicate (lineNumber.length + 1) ' '
  String.ofList
    ("TOML parse error at line ".toList ++ lineNumber ++ ", column ".toList ++
      Number.natDigits (column + 1) ++ '\n' :: gutter ++ '|' :: '\n' :: lineNumber ++
      " | ".toList ++ lineText ++ '\n' :: gutter ++ '|' :: List.replicate (column + 1) ' ' ++
      '^' :: '\n' :: fault.cause.message.toList ++ ['\n'])

end Fault

def failAt {α : Type} (cause : Cause) (rest : List Char) : Except Fault α :=
  .error { cause, left := rest.length }

end ArtifactCatalog.Toml
