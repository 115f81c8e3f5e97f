/-
Hosts of addresses. Special schemes have domain names and numeric hosts, which
are written in one way only; all other schemes keep the text of a host.
-/

import ArtifactCatalog.Url.Encoding
import ArtifactCatalog.Url.NumericHost
import ArtifactCatalog.Url.Punycode

namespace ArtifactCatalog.Url

def bracketedHost? (s : List Char) : Option (Except Fault (List Char)) :=
  match s with
  | '[' :: inner =>
    some (if inner.getLast? = some ']' then (hexGroups inner.dropLast).map renderGroups
      else .error .invalidIpv6)
  | _ => none

def isForbiddenInHost (c : Char) : Bool :=
  c.toNat = 0 || c.toNat = 9 || c.toNat = 10 || c.toNat = 13 ||
    [' ', '#', '/', ':', '<', '>', '?', '@', '[', '\\', ']', '^', '|'].contains c

def opaqueHost (s : List Char) : Except Fault (List Char) :=
  match bracketedHost? s with
  | some host => host
  | none =>
    if s.any isForbiddenInHost then .error .invalidDomainCharacter
    else .ok (percentEncode isControl s)

/-! ### Domain names -/

def isForbiddenInDomain (c : Char) : Bool :=
  c.toNat ≤ 0x20 || c.toNat = 0x7f || c = '%' || isForbiddenInHost c

/-- Control characters beyond ASCII and the mark of a fault in an encoding. -/
def isNoDomainText (c : Char) : Bool :=
  (0x80 ≤ c.toNat && c.toNat ≤ 0x9f) || c == Text.Utf8.replacement

def punycodeMark : List Char := "xn--".toList

/-- The full stops of other scripts count as dots. -/
def isFullStop (c : Char) : Bool := [0x3002, 0xff0e, 0xff61].contains c.toNat

def normalLabel (label : List Char) : List Char := label.flatMap Text.lowerChar

def writtenLabel (label : List Char) : Except Fault (List Char) :=
  let label := normalLabel label
  match Text.afterStart? punycodeMark label with
  | some code =>
    match Punycode.decode? code with
    | none => .error .invalidDomainName
    | some decoded =>
      if decoded.all Punycode.isPlain || normalLabel decoded != decoded ||
          Punycode.encode decoded != code then .error .invalidDomainName
      else .ok label
  | none =>
    if label.any fun c => isForbiddenInDomain c || isNoDomainText c then
      .error .invalidDomainName
    else if label.all Punycode.isPlain then .ok label
    else .ok (punycodeMark ++ Punycode.encode label)

def domainName (s : List Char) : Except Fault (List Char) := do
  let dotted := s.map fun c => if isFullStop c then '.' else c
  let labels ← (dotted.splitOn '.').mapM writtenLabel
  return List.intercalate ['.'] labels

def specialHost (s : List Char) : Except Fault (List Char) :=
  match bracketedHost? s with
  | some host => host
  | none => do
    let domain ← domainName (Text.Utf8.decodeLossy (percentDecode s))
    if domain.isEmpty then .error .emptyHost
    else if endsInNumber domain then return renderDotted (← dottedNumber domain)
    else return domain

end ArtifactCatalog.Url
