/-
Upper and lower case of texts. The lower-case form is the full one: capital I
with a dot becomes two characters, and a capital sigma takes its final form
after a letter at the end of a word.
-/

import ArtifactCatalog.Text.Case.Mapping
import ArtifactCatalog.Text.Case.Context

namespace ArtifactCatalog.Text

/-! ### Letters of the first 128 characters -/

def isAsciiUpper (c : Char) : Bool := 0x41 ≤ c.toNat && c.toNat ≤ 0x5A

def isAsciiLower (c : Char) : Bool := 0x61 ≤ c.toNat && c.toNat ≤ 0x7A

def isAsciiDigit (c : Char) : Bool := 0x30 ≤ c.toNat && c.toNat ≤ 0x39

def isAsciiLetter (c : Char) : Bool := isAsciiUpper c || isAsciiLower c

def asciiLowerChar (c : Char) : Char := if isAsciiUpper c then Char.ofNat (c.toNat + 32) else c

def asciiUpperChar (c : Char) : Char := if isAsciiLower c then Char.ofNat (c.toNat - 32) else c

def asciiLower (s : List Char) : List Char := s.map asciiLowerChar

def sameIgnoringAsciiCase (s t : List Char) : Bool := asciiLower s == asciiLower t

/-! ### All characters -/

def lowerChar (c : Char) : List Char :=
  if c.toNat < 0x80 then [asciiLowerChar c]
  else if c.toNat = 0x130 then [Char.ofNat 0x69, Char.ofNat 0x307]
  else match mapByRuns lowerRuns c.toNat with
    | some n => [Char.ofNat n]
    | none => [c]

def upperChar (c : Char) : List Char :=
  if c.toNat < 0x80 then [asciiUpperChar c]
  else match upperTexts.lookup c.toNat with
    | some codes => codes.map Char.ofNat
    | none => match mapByRuns upperRuns c.toNat with
      | some n => [Char.ofNat n]
      | none => [c]

def isCased (c : Char) : Bool := inIntervals casedIntervals c.toNat

def isCaseIgnorable (c : Char) : Bool := inIntervals caseIgnorableIntervals c.toNat

def capitalSigma : Char := Char.ofNat 0x3A3

def smallSigma : Char := Char.ofNat 0x3C3

def finalSigma : Char := Char.ofNat 0x3C2

/-- Whether the first character that is not skipped is a cased letter. -/
def startsCased (s : List Char) : Bool :=
  match s.dropWhile isCaseIgnorable with
  | [] => false
  | c :: _ => isCased c

/-- The lower-case form of `rest`, where `before` holds the characters already
read, the nearest first. -/
def lowerAfter (before : List Char) : List Char → List Char
  | [] => []
  | c :: rest =>
    if c = capitalSigma then
      (if startsCased before && !startsCased rest then finalSigma else smallSigma) ::
        lowerAfter (c :: before) rest
    else lowerChar c ++ lowerAfter (c :: before) rest

def lower (s : List Char) : List Char := lowerAfter [] s

def upper (s : List Char) : List Char := s.flatMap upperChar

def lowerString (s : String) : String := String.ofList (lower s.toList)

end ArtifactCatalog.Text
