/-
Characters from UTF-8 bytes. Bytes that begin no character, and the longest
start of a character that breaks off, give one faulty place each.
-/

namespace ArtifactCatalog.Text.Utf8

def bytesOf (s : String) : List UInt8 := s.toUTF8.toList

def isContinuation (byte : UInt8) : Bool := 0x80 ≤ byte && byte ≤ 0xbf

/-- For the first byte of a longer character, the number of bytes behind it and
the range of the second byte. -/
def leadShape? (lead : UInt8) : Option (Nat × UInt8 × UInt8) :=
  if 0xc2 ≤ lead ∧ lead ≤ 0xdf then some (1, 0x80, 0xbf)
  else if lead = 0xe0 then some (2, 0xa0, 0xbf)
  else if lead = 0xed then some (2, 0x80, 0x9f)
  else if 0xe1 ≤ lead ∧ lead ≤ 0xef then some (2, 0x80, 0xbf)
  else if lead = 0xf0 then some (3, 0x90, 0xbf)
  else if 0xf1 ≤ lead ∧ lead ≤ 0xf3 then some (3, 0x80, 0xbf)
  else if lead = 0xf4 then some (3, 0x80, 0x8f)
  else none

def join (lead : UInt8) (following : List UInt8) : Char :=
  Char.ofNat <|
    following.foldl (fun value byte => 64 * value + byte.toNat % 64)
      (lead.toNat % Nat.pow 2 (6 - following.length))

/-- The character that begins with `lead`, or none if there is a fault, and the
number of bytes behind it that belong to it. -/
def firstChar (lead : UInt8) (rest : List UInt8) : Option Char × Nat :=
  match leadShape? lead, rest with
  | none, _ => (if lead < 0x80 then some (Char.ofNat lead.toNat) else none, 0)
  | some _, [] => (none, 0)
  | some (count, low, high), second :: more =>
    if low ≤ second ∧ second ≤ high then
      let tail := (more.take (count - 1)).takeWhile isContinuation
      if tail.length + 1 = count then (some (join lead (second :: tail)), count)
      else (none, tail.length + 1)
    else (none, 0)

/-- The characters and faulty places of a text, in order. -/
def decode : List UInt8 → List (Option Char)
  | [] => []
  | lead :: rest =>
    let (char, count) := firstChar lead rest
    char :: decode (rest.drop count)
termination_by bytes => bytes.length
decreasing_by
  simp only [List.length_drop, List.length_cons]
  omega

def replacement : Char := Char.ofNat 0xfffd

def decodeLossy (bytes : List UInt8) : List Char := (decode bytes).map (·.getD replacement)

def decode? (bytes : List UInt8) : Option (List Char) := (decode bytes).mapM id

end ArtifactCatalog.Text.Utf8
