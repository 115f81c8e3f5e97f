/-
Items of a version text: numbers of unlimited size, and qualifiers such as
alpha or snapshot. An item that equals an absent one is called null.
-/

import ArtifactCatalog.Text.Case
import ArtifactCatalog.Text.Order

namespace ArtifactCatalog.Version

/-- A number holds its digits without leading zeros, so zero is the empty list;
a qualifier holds its text with the letters A to Z in lower case. -/
inductive Item where
  | number (digits : List Char)
  | qualifier (text : List Char)
deriving DecidableEq, Repr

def Item.ofDigits (run : List Char) : Item := .number (run.dropWhile (· == '0'))

def Item.ofQualifier (text : List Char) : Item := .qualifier (Text.asciiLower text)

def releaseRank : Nat := 5

def unknownRank : Nat := 7

def rankedQualifiers : List (String × Nat) :=
  [("alpha", 0), ("a", 0), ("beta", 1), ("b", 1), ("milestone", 2), ("m", 2),
    ("rc", 3), ("cr", 3), ("snapshot", 4), ("", releaseRank), ("ga", releaseRank),
    ("final", releaseRank), ("release", releaseRank), ("sp", 6)]

def qualifierRank (text : List Char) : Nat :=
  match rankedQualifiers.find? (fun entry => entry.1.toList == text) with
  | some (_, rank) => rank
  | none => unknownRank

/-- Zero and the release qualifiers compare like an absent item. -/
def Item.isNull : Item → Bool
  | .number digits => digits.isEmpty
  | .qualifier text => qualifierRank text == releaseRank

/-! ### Comparison -/

/-- Numbers without leading zeros: the longer is larger, equal lengths compare
digit by digit. -/
def compareDigits (a b : List Char) : Ordering :=
  (compare a.length b.length).then (Text.compareText a b)

/-- Qualifiers compare by rank, and by text when both have no meaning of their own. -/
def compareQualifiers (a b : List Char) : Ordering :=
  (compare (qualifierRank a) (qualifierRank b)).then
    (if qualifierRank a = unknownRank then Text.compareText a b else .eq)

def Item.compareToAbsent : Item → Ordering
  | .number digits => if digits.isEmpty then .eq else .gt
  | .qualifier text => compare (qualifierRank text) releaseRank

def Item.compare : Item → Item → Ordering
  | .number a, .number b => compareDigits a b
  | .qualifier a, .qualifier b => compareQualifiers a b
  | .number _, .qualifier _ => .gt
  | .qualifier _, .number _ => .lt

/-- Compares place by place; the shorter list is continued by absent items. -/
def compareItems : List Item → List Item → Ordering
  | [], [] => .eq
  | a :: as, [] => a.compareToAbsent.then (compareItems as [])
  | [], b :: bs => b.compareToAbsent.swap.then (compareItems [] bs)
  | a :: as, b :: bs => (a.compare b).then (compareItems as bs)

end ArtifactCatalog.Version
