/-
Numbers of TOML documents: integers of 64 bits in four bases, and numbers with
a fraction or an exponent. Underlines may stand between digits.
-/

import ArtifactCatalog.Number.Decimal
import ArtifactCatalog.Text.Hexadecimal
import ArtifactCatalog.Toml.Fault
import ArtifactCatalog.Toml.Value

namespace ArtifactCatalog.Toml

def takeDigits (isDigit : Char → Bool) : List Char → List Char × List Char
  | [] => ([], [])
  | [c] => if isDigit c then ([c], []) else ([], [c])
  | c :: d :: rest =>
    if isDigit c then
      if d = '_' ∧ (rest.head?.any isDigit) = true then
        let (digits, rest) := takeDigits isDigit rest
        (c :: digits, rest)
      else
        let (digits, rest) := takeDigits isDigit (d :: rest)
        (c :: digits, rest)
    else ([], c :: d :: rest)
termination_by s => s.length

def baseOf? (mark : Char) : Option Nat :=
  if mark = 'x' then some 16 else if mark = 'o' then some 8 else if mark = 'b' then some 2 else none

def isDigitOf (base : Nat) (c : Char) : Bool := (Text.hexValue? c).any (· < base)

def integerValue (n : Int) (s : List Char) : Except Fault Value :=
  if Number.fitsInt64 n then .ok (.integer n) else failAt .outOfRange s

/-- Reads an integer in another base; `s` follows the mark. -/
def readBased (base : Nat) (s : List Char) : Except Fault (Value × List Char) :=
  let (digits, rest) := takeDigits (isDigitOf base) s
  if digits.isEmpty then failAt .digits s
  else
    let n := digits.foldl (fun value c => base * value + (Text.hexValue? c).getD 0) 0
    (integerValue n s).map (·, rest)

def takeFraction (s : List Char) : Except Fault (Option (List Char) × List Char) :=
  match s with
  | '.' :: rest =>
    let (digits, rest) := takeDigits Text.isAsciiDigit rest
    if digits.isEmpty then failAt .digits rest else .ok (some digits, rest)
  | _ => .ok (none, s)

def takeExponent (s : List Char) : Except Fault (Option Int × List Char) :=
  match s with
  | mark :: rest =>
    if mark = 'e' ∨ mark = 'E' then
      let (negative, rest) := Number.takeSign rest
      let (digits, rest) := takeDigits Text.isAsciiDigit rest
      if digits.isEmpty then failAt .digits rest
      else .ok (some (Number.applySign negative (Number.ofDigits digits)), rest)
    else .ok (none, s)
  | [] => .ok (none, s)

/-- Reads a decimal number without its sign. A whole part of several digits does
not begin with a zero. -/
def readDecimal (negative : Bool) (s : List Char) : Except Fault (Value × List Char) := do
  let (whole, rest) := match s with
    | '0' :: rest => (['0'], rest)
    | s => takeDigits Text.isAsciiDigit s
  if whole.isEmpty then failAt .digits s
  let (fraction, rest) ← takeFraction rest
  let (exponent, rest) ← takeExponent rest
  if fraction.isNone && exponent.isNone then
    let value ← integerValue (Number.applySign negative (Number.ofDigits whole)) s
    return (value, rest)
  else
    let parts : Number.DecimalParts :=
      { whole, fraction := fraction.getD [], exponent := exponent.getD 0 }
    let x := parts.toBinary64 negative
    if x = .infinite false then failAt .outOfRange s
    return (.number x, rest)

def readNumber (s : List Char) : Except Fault (Value × List Char) :=
  match s with
  | '0' :: mark :: rest =>
    match baseOf? mark with
    | some base => readBased base rest
    | none => readDecimal false s
  | _ =>
    let (negative, rest) := Number.takeSign s
    match rest with
    | 'i' :: 'n' :: 'f' :: rest => .ok (.number (.infinite negative), rest)
    | 'n' :: 'a' :: 'n' :: rest => .ok (.number .undefined, rest)
    | rest => readDecimal negative rest

end ArtifactCatalog.Toml
