/-
Reading JSON texts. One value with blanks around it is a text; objects keep the
last value of a repeated name, and values nest at most 127 deep.
-/

import ArtifactCatalog.Json.Value
import ArtifactCatalog.Number.Decimal
import ArtifactCatalog.Text.Hexadecimal

namespace ArtifactCatalog.Json

def isJsonBlank (c : Char) : Bool :=
  c.toNat == 0x20 || c.toNat == 9 || c.toNat == 10 || c.toNat == 13

def skipBlanks (s : List Char) : List Char := s.dropWhile isJsonBlank

/-! ### Texts -/

def hexUnit? (a b c d : Char) : Option Nat := do
  let a ← Text.hexValue? a
  let b ← Text.hexValue? b
  let c ← Text.hexValue? c
  let d ← Text.hexValue? d
  return ((a * 16 + b) * 16 + c) * 16 + d

def isHighSurrogate (n : Nat) : Bool := 0xD800 ≤ n && n ≤ 0xDBFF

def isLowSurrogate (n : Nat) : Bool := 0xDC00 ≤ n && n ≤ 0xDFFF

def joinSurrogates (high low : Nat) : Char :=
  Char.ofNat (0x10000 + (high - 0xD800) * 0x400 + (low - 0xDC00))

def simpleEscape? (c : Char) : Option Char :=
  if c = '"' ∨ c = '\\' ∨ c = '/' then some c
  else if c = 'b' then some (Char.ofNat 8)
  else if c = 'f' then some (Char.ofNat 12)
  else if c = 'n' then some (Char.ofNat 10)
  else if c = 'r' then some (Char.ofNat 13)
  else if c = 't' then some (Char.ofNat 9)
  else none

/-- Reads up to the closing quote; `taken` holds the characters read, the latest
first. A surrogate stands only in a pair. -/
def readText (taken : List Char) : List Char → Option (List Char × List Char)
  | [] => none
  | '"' :: rest => some (taken.reverse, rest)
  | '\\' :: 'u' :: a :: b :: c :: d :: '\\' :: 'u' :: e :: f :: g :: h :: rest =>
    match hexUnit? a b c d with
    | none => none
    | some unit =>
      if isHighSurrogate unit then
        match hexUnit? e f g h with
        | none => none
        | some low =>
          if isLowSurrogate low then readText (joinSurrogates unit low :: taken) rest else none
      else if isLowSurrogate unit then none
      else readText (Char.ofNat unit :: taken) ('\\' :: 'u' :: e :: f :: g :: h :: rest)
  | '\\' :: 'u' :: a :: b :: c :: d :: rest =>
    match hexUnit? a b c d with
    | none => none
    | some unit =>
      if isHighSurrogate unit || isLowSurrogate unit then none
      else readText (Char.ofNat unit :: taken) rest
  | '\\' :: c :: rest =>
    match simpleEscape? c with
    | some d => readText (d :: taken) rest
    | none => none
  | c :: rest => if c.toNat < 0x20 ∨ c = '\\' then none else readText (c :: taken) rest

/-! ### Numbers -/

def isWholePart (digits : List Char) : Bool :=
  match digits with
  | [] => false
  | ['0'] => true
  | c :: _ => c != '0'

def isRepresentable (parts : Number.DecimalParts) : Bool :=
  (parts.toBinary64 false).isFinite

def isWord (n : Int) : Bool := -(Number.signedWordLimit : Int) ≤ n && n < UInt64.size

def readFraction? : List Char → Option (List Char × List Char)
  | '.' :: rest =>
    let digits := rest.takeWhile Text.isAsciiDigit
    if digits.isEmpty then none else some (digits, rest.dropWhile Text.isAsciiDigit)
  | rest => some ([], rest)

def readExponent? : List Char → Option (Option Int × List Char)
  | [] => some (none, [])
  | mark :: rest =>
    if mark = 'e' ∨ mark = 'E' then
      let (negative, rest) := Number.takeSign rest
      let digits := rest.takeWhile Text.isAsciiDigit
      if digits.isEmpty then none
      else
        some (some (Number.applySign negative (Number.ofDigits digits)),
          rest.dropWhile Text.isAsciiDigit)
    else some (none, mark :: rest)

def readNumber (s : List Char) : Option (Json × List Char) := do
  let (negative, body) := match s with
    | '-' :: rest => (true, rest)
    | _ => (false, s)
  let whole := body.takeWhile Text.isAsciiDigit
  guard (isWholePart whole)
  let afterWhole := body.dropWhile Text.isAsciiDigit
  let (fraction, afterFraction) ← readFraction? afterWhole
  let (exponent, rest) ← readExponent? afterFraction
  let parts : Number.DecimalParts := { whole, fraction, exponent := exponent.getD 0 }
  let value := Number.applySign negative (Number.ofDigits whole)
  if fraction.isEmpty && exponent.isNone && isWord value && !(negative && value == 0) then
    return (integer value, rest)
  else
    guard (isRepresentable parts)
    return (decimal (String.ofList (s.take (s.length - rest.length))), rest)

/-! ### Values -/

def nestingLimit : Nat := 127

mutual

/-- Reads one value; `depth` more levels of nesting are allowed. -/
def readValue : Nat → Nat → List Char → Option (Json × List Char)
  | 0, _, _ => none
  | fuel + 1, depth, s =>
    match skipBlanks s with
    | 'n' :: 'u' :: 'l' :: 'l' :: rest => some (null, rest)
    | 't' :: 'r' :: 'u' :: 'e' :: rest => some (boolean true, rest)
    | 'f' :: 'a' :: 'l' :: 's' :: 'e' :: rest => some (boolean false, rest)
    | '"' :: rest => (readText [] rest).map fun (s, rest) => (text (String.ofList s), rest)
    | '[' :: rest =>
      match depth with
      | 0 => none
      | depth + 1 =>
        match skipBlanks rest with
        | ']' :: rest => some (list [], rest)
        | rest => (readItems fuel depth rest).map fun (items, rest) => (list items, rest)
    | '\x7b' :: rest =>
      match depth with
      | 0 => none
      | depth + 1 =>
        match skipBlanks rest with
        | '\x7d' :: rest => some (object [], rest)
        | rest =>
          (readFields fuel depth rest).map fun (fields, rest) =>
            (object (fields.foldl (fun known (name, value) => setField name value known) []), rest)
    | rest => readNumber rest

def readItems : Nat → Nat → List Char → Option (List Json × List Char)
  | 0, _, _ => none
  | fuel + 1, depth, s =>
    match readValue fuel depth s with
    | none => none
    | some (item, rest) =>
      match skipBlanks rest with
      | ']' :: rest => some ([item], rest)
      | ',' :: rest =>
        (readItems fuel depth rest).map fun (items, rest) => (item :: items, rest)
      | _ => none

def readFields : Nat → Nat → List Char → Option (List (String × Json) × List Char)
  | 0, _, _ => none
  | fuel + 1, depth, s =>
    match skipBlanks s with
    | '"' :: rest =>
      match readText [] rest with
      | none => none
      | some (name, rest) =>
        match skipBlanks rest with
        | ':' :: rest =>
          match readValue fuel depth rest with
          | none => none
          | some (value, rest) =>
            let field := (String.ofList name, value)
            match skipBlanks rest with
            | '\x7d' :: rest => some ([field], rest)
            | ',' :: rest =>
              (readFields fuel depth rest).map fun (fields, rest) => (field :: fields, rest)
            | _ => none
        | _ => none
    | _ => none

end

/-- Reads a whole text. The fuel exceeds the number of calls that its
characters can cause, two for each. -/
def parse? (s : String) : Option Json :=
  let chars := s.toList
  match readValue (2 * chars.length + 2) nestingLimit chars with
  | some (value, rest) => if (skipBlanks rest).isEmpty then some value else none
  | none => none

end ArtifactCatalog.Json
