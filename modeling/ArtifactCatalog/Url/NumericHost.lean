/-
Hosts given by number: four bytes with dots, or eight groups of hexadecimal
digits with colons, in which one run of zero groups may be left out.
-/

import ArtifactCatalog.Number.Decimal
import ArtifactCatalog.Text.Cut
import ArtifactCatalog.Text.Hexadecimal
import ArtifactCatalog.Url.Fault

namespace ArtifactCatalog.Url

/-! ### Four bytes -/

def ofHexDigits (digits : List Char) : Nat :=
  digits.foldl (fun value c => 16 * value + (Text.hexValue? c).getD 0) 0

/-- A part of a dotted number: decimal, octal behind a zero, or hexadecimal
behind a zero and an x. -/
def dottedPart? : List Char → Option Nat
  | [] => none
  | '0' :: 'x' :: digits => if digits.all Text.isHexDigit then some (ofHexDigits digits) else none
  | '0' :: c :: digits =>
    if (c :: digits).all fun d => Text.isAsciiDigit d && d.toNat < 0x38 then
      some ((c :: digits).foldl (fun value d => 8 * value + Number.digitValue d) 0)
    else none
  | digits => if digits.all Text.isAsciiDigit then some (Number.ofDigits digits) else none

def dottedParts (host : List Char) : List (List Char) :=
  match (host.splitOn '.').reverse with
  | [] :: rest => rest.reverse
  | parts => parts.reverse

/-- Whether a host has to be read as a number, which its last part decides. -/
def endsInNumber (host : List Char) : Bool :=
  match (dottedParts host).getLast? with
  | none => false
  | some last => Number.isDigitRun last || (dottedPart? last).isSome

/-- The number of a dotted host: the last part fills the bytes that are left. -/
def dottedNumber (host : List Char) : Except Fault Nat :=
  let parts := dottedParts host
  match parts.mapM dottedPart? with
  | none => .error .invalidIpv4
  | some numbers =>
    let leading := numbers.dropLast
    let last := numbers.getLast?.getD 0
    if 4 < numbers.length || leading.any (255 < ·) || Nat.pow 256 (4 - leading.length) ≤ last then
      .error .invalidIpv4
    else
      .ok (leading.zipIdx.foldl (fun value (n, i) => value + n * Nat.pow 256 (3 - i)) last)

def renderDotted (n : Nat) : List Char :=
  List.intercalate ['.'] <|
    [n / 16777216 % 256, n / 65536 % 256, n / 256 % 256, n % 256].map Number.natDigits

/-! ### Eight groups -/

def isGroup (s : List Char) : Bool :=
  0 < s.length && s.length ≤ 4 && s.all Text.isHexDigit

def decimalByte? (s : List Char) : Option Nat :=
  if Number.isDigitRun s && (s.length == 1 || s.head? != some '0') && Number.ofDigits s ≤ 255 then
    some (Number.ofDigits s)
  else none

/-- The groups of a list of parts; the last part may be four bytes with dots,
which stand for two groups, where `dotted` says so. -/
def groups? (dotted : Bool) : List (List Char) → Option (List Nat)
  | [] => some []
  | [part] =>
    if isGroup part then some [ofHexDigits part]
    else if dotted then
      match (part.splitOn '.').mapM decimalByte? with
      | some [a, b, c, d] => some [256 * a + b, 256 * c + d]
      | _ => none
    else none
  | part :: rest =>
    if isGroup part then (groups? dotted rest).map (ofHexDigits part :: ·) else none

def colonParts (s : List Char) : List (List Char) := if s.isEmpty then [] else s.splitOn ':'

def cutAtGap : List Char → Option (List Char × List Char)
  | ':' :: ':' :: rest => some ([], rest)
  | c :: rest => (cutAtGap rest).map fun (before, after) => (c :: before, after)
  | [] => none

def hexGroups (s : List Char) : Except Fault (List Nat) :=
  match cutAtGap s with
  | none =>
    match groups? true (s.splitOn ':') with
    | some groups => if groups.length = 8 then .ok groups else .error .invalidIpv6
    | none => .error .invalidIpv6
  | some (before, after) =>
    match groups? false (colonParts before), groups? true (colonParts after) with
    | some front, some back =>
      if front.length + back.length ≤ 7 then
        .ok (front ++ List.replicate (8 - front.length - back.length) 0 ++ back)
      else .error .invalidIpv6
    | _, _ => .error .invalidIpv6

def zeroRun (groups : List Nat) : Nat := (groups.takeWhile (· == 0)).length

/-- The place and length of the first of the longest runs of zeros. -/
def longestZeroRun (groups : List Nat) : Nat × Nat :=
  (List.range groups.length).foldl
    (fun best place =>
      let length := zeroRun (groups.drop place)
      if best.2 < length then (place, length) else best)
    (0, 0)

def renderGroup (group : Nat) : List Char := Nat.toDigits 16 group

def renderGroupRun (groups : List Nat) : List Char :=
  List.intercalate [':'] (groups.map renderGroup)

/-- Eight groups between brackets, with the longest run of at least two zeros left out. -/
def renderGroups (groups : List Nat) : List Char :=
  let (place, length) := longestZeroRun groups
  let body :=
    if length < 2 then renderGroupRun groups
    else
      renderGroupRun (groups.take place) ++ ':' :: ':' ::
        renderGroupRun (groups.drop (place + length))
  '[' :: body ++ [']']

end ArtifactCatalog.Url
