/-
Extra fields of directory entries, as release 2.4 of the zip library reads them.
Fields that replace sizes, the place of the local header, the name or the comment
take effect; a faulty one spoils the archive; fields that break off are left out
together with all behind them.
-/

import ArtifactCatalog.Digest.Crc32
import ArtifactCatalog.Number.Bytes
import ArtifactCatalog.Text.Utf8

namespace ArtifactCatalog.Archive

inductive Method where
  | sealed
  | other
deriving DecidableEq, Repr

/-- The number of the method whose true method stands in an extra field. -/
def sealedMethod : Nat := 99

def Method.ofNumber (n : Nat) : Method := if n = sealedMethod then sealed else other

structure EntryDraft where
  plainSize : Nat
  storedSize : Nat
  /-- The place of the local header, counted from the start of the archive. -/
  headerPlace : Nat
  method : Method
  hasSeal : Bool := false
  rawName : List UInt8
  name : List Char
  comment : List Char
deriving DecidableEq, Repr

inductive FieldOutcome where
  | read (draft : EntryDraft)
  | brokenOff (draft : EntryDraft)
  | faulty

/-- The value that says that a wider one stands in an extra field. -/
def wideMark : Nat := 0xffffffff

def takeWide (wanted : Bool) (old : Nat) (bytes : List UInt8) :
    Option (Nat × List UInt8) :=
  if wanted then
    if bytes.length < 8 then none else some (Number.ofBytes (bytes.take 8), bytes.drop 8)
  else some (old, bytes)

/-- The field of wide sizes and places. It holds a value for each number that
carries the mark, or for all three if it is long enough. -/
def readWide (draft : EntryDraft) (length : Nat) (bytes : List UInt8) : FieldOutcome :=
  let wants (n : Nat) : Bool := 24 ≤ length || n == wideMark
  match takeWide (wants draft.plainSize) draft.plainSize bytes with
  | none => .brokenOff draft
  | some (plainSize, rest) =>
    let draft := { draft with plainSize }
    match takeWide (wants draft.storedSize) draft.storedSize rest with
    | none => .brokenOff draft
    | some (storedSize, rest) =>
      let draft := { draft with storedSize }
      match takeWide (wants draft.headerPlace) draft.headerPlace rest with
      | none => .brokenOff draft
      | some (headerPlace, rest) =>
        let draft := { draft with headerPlace }
        if length < bytes.length - rest.length then .faulty
        else if bytes.length < length then .brokenOff draft
        else .read draft

def readSeal (draft : EntryDraft) (length : Nat) (bytes : List UInt8) : FieldOutcome :=
  let number (place count : Nat) : Nat := Number.ofBytes ((bytes.drop place).take count)
  let version := number 0 2
  let strength := number 4 1
  if length ≠ 7 then .faulty
  else if bytes.length < 7 then .brokenOff draft
  else if number 2 2 ≠ 0x4541 ∨ version = 0 ∨ 2 < version ∨ strength = 0 ∨ 3 < strength then
    .faulty
  else .read { draft with method := .ofNumber (number 5 2), hasSeal := true }

def bitCount (byte : UInt8) : Nat :=
  ((List.range 8).filter fun bit => byte.toNat.testBit bit).length

/-- The field of times; it changes nothing, but its length has to fit its flags. -/
def readTimes (draft : EntryDraft) (length : Nat) (bytes : List UInt8) : FieldOutcome :=
  match bytes with
  | [] => .brokenOff draft
  | flags :: _ =>
    if length ≠ 5 ∧ length ≠ 1 + 4 * bitCount flags then .faulty
    else if 8 ≤ flags then .faulty
    else if bytes.length < length then .brokenOff draft
    else .read draft

/-- The field of times that another system keeps. It has one layout and changes nothing. -/
def readSystemTimes (draft : EntryDraft) (length : Nat) (bytes : List UInt8) : FieldOutcome :=
  let number (place : Nat) : Nat := Number.ofBytes ((bytes.drop place).take 2)
  if length ≠ 32 then .faulty
  else if bytes.length < 6 then .brokenOff draft
  else if number 4 ≠ 1 then .faulty
  else if bytes.length < 8 then .brokenOff draft
  else if number 6 ≠ 24 then .faulty
  else if bytes.length < 32 then .brokenOff draft
  else .read draft

inductive UnicodeText where
  | text (bytes : List UInt8) (chars : List Char)
  | brokenOff
  | faulty

def readUnicode (replaced : List UInt8) (length : Nat) (bytes : List UInt8) : UnicodeText :=
  let content := (bytes.drop 5).take (length - 5)
  if bytes.length < 5 then .brokenOff
  else if length < 5 then .faulty
  else if bytes.length < length then .brokenOff
  else if Number.ofBytes ((bytes.drop 1).take 4) ≠ (Digest.Crc32.check replaced).toNat then .faulty
  else
    match Text.Utf8.decode? content with
    | some chars => .text content chars
    | none => .faulty

def readName (draft : EntryDraft) (length : Nat) (bytes : List UInt8) : FieldOutcome :=
  match readUnicode draft.rawName length bytes with
  | .text rawName name => .read { draft with rawName, name }
  | .brokenOff => .brokenOff draft
  | .faulty => .faulty

def readComment (draft : EntryDraft) (length : Nat) (bytes : List UInt8) : FieldOutcome :=
  match readUnicode (Text.Utf8.bytesOf (String.ofList draft.comment)) length bytes with
  | .text _ comment => .read { draft with comment }
  | .brokenOff => .brokenOff draft
  | .faulty => .faulty

def readField (draft : EntryDraft) (kind length : Nat) (bytes : List UInt8) : FieldOutcome :=
  if kind = 0x0001 then readWide draft length bytes
  else if kind = 0x000a then readSystemTimes draft length bytes
  else if kind = 0x9901 then readSeal draft length bytes
  else if kind = 0x5455 then readTimes draft length bytes
  else if kind = 0x7075 then readName draft length bytes
  else if kind = 0x6375 then readComment draft length bytes
  else if bytes.length < length then .brokenOff draft
  else .read draft

def EntryDraft.applyExtra? (draft : EntryDraft) : List UInt8 → Option EntryDraft
  | a :: b :: c :: d :: rest =>
    let length := Number.ofBytes [c, d]
    match readField draft (Number.ofBytes [a, b]) length rest with
    | .read draft => draft.applyExtra? (rest.drop length)
    | .brokenOff draft => some draft
    | .faulty => none
  | _ => some draft
termination_by bytes => bytes.length
decreasing_by
  simp only [List.length_drop, List.length_cons]
  omega

end ArtifactCatalog.Archive
