/-
Blank characters and trimming. A character is blank when it has the Unicode
property White_Space; texts are lists of characters, so that every cut is a
statement about lists.
-/

namespace ArtifactCatalog.Text

/-- Exactly the characters with the Unicode property White_Space. -/
def isBlank (c : Char) : Bool :=
  let n := c.toNat
  (9 ≤ n && n ≤ 13) || n == 0x20 || n == 0x85 || n == 0xA0 || n == 0x1680 ||
    (0x2000 ≤ n && n ≤ 0x200A) || n == 0x2028 || n == 0x2029 || n == 0x202F ||
    n == 0x205F || n == 0x3000

def isGap (c : Char) : Bool := c == ' ' || c == '\t'

def dropEndWhile (p : Char → Bool) (s : List Char) : List Char :=
  (s.reverse.dropWhile p).reverse

/-- Removes the longest runs at both ends whose characters all satisfy `p`. -/
def stripWhile (p : Char → Bool) (s : List Char) : List Char :=
  dropEndWhile p (s.dropWhile p)

def trimStart (s : List Char) : List Char := s.dropWhile isBlank

def trimEnd (s : List Char) : List Char := dropEndWhile isBlank s

def trim (s : List Char) : List Char := stripWhile isBlank s

def allBlank (s : List Char) : Bool := s.all isBlank

end ArtifactCatalog.Text
