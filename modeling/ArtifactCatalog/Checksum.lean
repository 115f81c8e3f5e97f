/-
Digest algorithms and checksums. A checksum is the lower-case hexadecimal form
of a digest together with the algorithm that made it.
-/

import ArtifactCatalog.Failure.Domain
import ArtifactCatalog.Json.Form
import ArtifactCatalog.Number.Text
import ArtifactCatalog.Text.Case
import ArtifactCatalog.Text.Hexadecimal

namespace ArtifactCatalog

inductive Algorithm where
  | md5
  | sha1
  | sha256
  | sha3_256
  | blake3
deriving DecidableEq, Repr, Inhabited

namespace Algorithm

def name : Algorithm → String
  | md5 => "MD5"
  | sha1 => "SHA1"
  | sha256 => "SHA256"
  | sha3_256 => "SHA3-256"
  | blake3 => "BLAKE3"

def default : Algorithm := md5

def digestLength : Algorithm → Nat
  | md5 => 16
  | sha1 => 20
  | sha256 | sha3_256 | blake3 => 32

def hexLength (algorithm : Algorithm) : Nat := 2 * algorithm.digestLength

/-- The names under which a document may state an algorithm. -/
def documentNames : List (String × Algorithm) :=
  [("MD5", md5), ("SHA1", sha1), ("SHA256", sha256), ("SHA3-256", sha3_256),
    ("SHA3_256", sha3_256), ("BLAKE3", blake3)]

def spokenNames : List (String × Algorithm) :=
  documentNames ++ [("SHA-1", sha1), ("SHA-256", sha256)]

def ofName (name : String) : Except DomainError Algorithm :=
  match spokenNames.lookup (String.ofList (Text.upper name.toList)) with
  | some algorithm => .ok algorithm
  | none => .error (.unsupportedAlgorithm name)

inductive Mismatch where
  | wrongLength (algorithm : Algorithm) (length : Nat)
  | notHexadecimal
deriving DecidableEq, Repr

def Mismatch.message : Mismatch → String
  | wrongLength algorithm length =>
    "invalid length for " ++ algorithm.name ++ ": expected " ++
      Number.natText algorithm.hexLength ++ " characters, got " ++ Number.natText length
  | notHexadecimal => "checksum must be a hexadecimal string"

def Mismatch.toDomainError (fault : Mismatch) : DomainError := .invalidChecksum fault.message

/-- Whether a text has the form of a digest: the length, counted in bytes, comes first. -/
def checkDigest (algorithm : Algorithm) (digest : String) : Except Mismatch Unit :=
  if digest.utf8ByteSize ≠ algorithm.hexLength then
    .error (.wrongLength algorithm digest.utf8ByteSize)
  else if digest.toList.all Text.isHexDigit then .ok ()
  else .error .notHexadecimal

end Algorithm

/-- A document states an algorithm by its name, or by an object with the name as
its only field and nothing in it. -/
instance : JsonForm Algorithm where
  write algorithm := .text algorithm.name
  read?
    | .text name => Algorithm.documentNames.lookup name
    | .object [(name, .null)] => Algorithm.documentNames.lookup name
    | _ => none

structure Checksum where
  algorithm : Algorithm
  value : String
deriving DecidableEq, Repr

namespace Checksum

def ofText (algorithm : Algorithm) (text : String) : Except Algorithm.Mismatch Checksum := do
  let value := Text.lowerString text
  algorithm.checkDigest value
  return { algorithm, value }

def agreesWith (checksum : Checksum) (text : String) : Bool :=
  Text.sameIgnoringAsciiCase checksum.value.toList text.toList

def label (checksum : Checksum) : String := checksum.algorithm.name ++ ":" ++ checksum.value

end Checksum

instance : JsonForm Checksum where
  write checksum := .object <|
    Json.field "algorithm" checksum.algorithm ++ Json.field "value" checksum.value
  read? := Json.readRecord do
    let algorithm ← FieldReader.required "algorithm"
    let value ← FieldReader.required "value"
    return { algorithm, value }

end ArtifactCatalog
