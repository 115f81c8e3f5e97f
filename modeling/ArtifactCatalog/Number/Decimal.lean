/-
Decimal texts: runs of digits as natural numbers, signed integers, and numbers
with a fraction and an exponent.
-/

import ArtifactCatalog.Number.Binary64
import ArtifactCatalog.Text.Case

namespace ArtifactCatalog.Number

def digitValue (c : Char) : Nat := c.toNat - 0x30

def ofDigits (digits : List Char) : Nat :=
  digits.foldl (fun value c => 10 * value + digitValue c) 0

def isDigitRun (s : List Char) : Bool := !s.isEmpty && s.all Text.isAsciiDigit

def takeSign : List Char → Bool × List Char
  | '+' :: rest => (false, rest)
  | '-' :: rest => (true, rest)
  | rest => (false, rest)

def applySign (negative : Bool) (n : Nat) : Int := if negative then -(n : Int) else n

def parseInteger? (s : List Char) : Option Int :=
  let (negative, digits) := takeSign s
  if isDigitRun digits then some (applySign negative (ofDigits digits)) else none

/-- One more than the greatest integer of a signed word of 64 bits. -/
def signedWordLimit : Nat := UInt64.size / 2

def fitsInt64 (n : Int) : Bool := -(signedWordLimit : Int) ≤ n && n < signedWordLimit

def parseInt64? (s : List Char) : Option Int :=
  (parseInteger? s).filter fitsInt64

/-- An unsigned integer of at most `bits` bits; a plus sign is allowed. -/
def parseUnsigned? (bits : Nat) (s : List Char) : Option Nat :=
  let digits := match s with
    | '+' :: rest => rest
    | _ => s
  if isDigitRun digits && ofDigits digits < Nat.pow 2 bits then some (ofDigits digits) else none

structure DecimalParts where
  whole : List Char
  fraction : List Char
  exponent : Int
deriving DecidableEq, Repr

def DecimalParts.toBinary64 (parts : DecimalParts) (negative : Bool) : Binary64 :=
  .ofDecimal negative (ofDigits (parts.whole ++ parts.fraction))
    (parts.exponent - parts.fraction.length)

def parseExponent? : List Char → Option Int
  | [] => some 0
  | mark :: rest =>
    if mark = 'e' ∨ mark = 'E' then parseInteger? rest else none

def parseParts? (s : List Char) : Option DecimalParts :=
  let whole := s.takeWhile Text.isAsciiDigit
  let rest := s.dropWhile Text.isAsciiDigit
  let (fraction, rest) := match rest with
    | '.' :: after => (after.takeWhile Text.isAsciiDigit, after.dropWhile Text.isAsciiDigit)
    | _ => ([], rest)
  if whole.isEmpty && fraction.isEmpty then none
  else (parseExponent? rest).map fun exponent => { whole, fraction, exponent }

/-- Reads a number: a decimal with an optional sign, or one of the words for
infinity and for an undefined result, in any case. -/
def parseBinary64? (s : List Char) : Option Binary64 :=
  let (negative, rest) := takeSign s
  let word := String.ofList (Text.asciiLower rest)
  if word = "inf" ∨ word = "infinity" then some (.infinite negative)
  else if word = "nan" then some .undefined
  else (parseParts? rest).map (·.toBinary64 negative)

end ArtifactCatalog.Number
