/-
The directory of an archive. It is found from the end record, which may be
followed by other bytes, and it may lie further on than its stated place, by as
much as stands in front of the archive. Wide archives have a second end record
behind a locator. Of all end records the last one that leads to a readable
directory counts.
-/

import ArtifactCatalog.Archive.Extra
import ArtifactCatalog.Archive.Image
import ArtifactCatalog.Text.Codepage437

namespace ArtifactCatalog.Archive

/-! ### End records -/

structure EndRecord where
  disk : Nat
  directoryDisk : Nat
  entriesOnDisk : Nat
  entries : Nat
  directoryPlace : Nat
deriving DecidableEq, Repr

/-- The end record at a place; its comment has to lie within the image. -/
def endRecord? (image : Image) (place : Nat) : Option EndRecord := do
  let disk ← image.number? (place + 4) 2
  let directoryDisk ← image.number? (place + 6) 2
  let entriesOnDisk ← image.number? (place + 8) 2
  let entries ← image.number? (place + 10) 2
  let directoryPlace ← image.number? (place + 16) 4
  let commentLength ← image.number? (place + 20) 2
  let _ ← image.slice? (place + 22) commentLength
  return { disk, directoryDisk, entriesOnDisk, entries, directoryPlace }

def EndRecord.mayBeWide (record : EndRecord) : Bool :=
  record.entries == 0xffff || record.directoryPlace == wideMark

structure Locator where
  place : Nat
  recordDisk : Nat
  recordPlace : Nat
  disks : Nat
deriving DecidableEq, Repr

def locatorSize : Nat := 20

def locator? (image : Image) (endPlace : Nat) : Option Locator := do
  guard (locatorSize ≤ endPlace)
  let place := endPlace - locatorSize
  guard (image.hasSignature locatorSignature place)
  let recordDisk ← image.number? (place + 4) 4
  let recordPlace ← image.number? (place + 8) 8
  let disks ← image.number? (place + 16) 4
  return { place, recordDisk, recordPlace, disks }

structure DirectoryPlace where
  offset : Nat
  first : Nat
  entries : Nat
deriving DecidableEq, Repr

def entrySize : Nat := 46

/-- The directory of an archive with an ordinary end record. An empty one lies
directly in front of the record; any other begins with the first entry at or
behind its stated place. -/
def ordinaryPlace? (image : Image) (endPlace : Nat) (record : EndRecord) :
    Option DirectoryPlace := do
  guard (record.disk = record.directoryDisk)
  let offset ←
    if record.entries = 0 then some (endPlace - record.directoryPlace)
    else
      (image.signaturePlaces entrySignature record.directoryPlace endPlace).head?.map
        (· - record.directoryPlace)
  return { offset, first := record.directoryPlace + offset, entries := record.entriesOnDisk }

structure WideRecord where
  disk : Nat
  directoryDisk : Nat
  entriesOnDisk : Nat
  entries : Nat
  directoryPlace : Nat
  writerVersion : Nat
  readerVersion : Nat
deriving DecidableEq, Repr

def wideRecord? (image : Image) (locator : Locator) (place : Nat) : Option WideRecord := do
  let recordSize ← image.number? (place + 4) 8
  let writerVersion ← image.number? (place + 12) 2
  let readerVersion ← image.number? (place + 14) 2
  let disk ← image.number? (place + 16) 4
  let directoryDisk ← image.number? (place + 20) 4
  let entriesOnDisk ← image.number? (place + 24) 8
  let entries ← image.number? (place + 32) 8
  let directoryPlace ← image.number? (place + 48) 8
  guard (44 ≤ recordSize)
  guard (recordSize + 12 = locator.place - place)
  guard (directoryDisk = locator.recordDisk)
  guard (entries * entrySize + directoryPlace ≤ place)
  return { disk, directoryDisk, entriesOnDisk, entries, directoryPlace, writerVersion,
           readerVersion }

/-- The directory of a wide archive: the first wide end record at or behind its
stated place that agrees with the locator counts. -/
def widePlace? (image : Image) (locator : Locator) : Option DirectoryPlace := do
  guard (locator.recordPlace < locator.place)
  guard (locator.disks ≤ 1)
  let places := image.signaturePlaces wideEndSignature locator.recordPlace locator.place
  let (place, record) ← places.findSome? fun place =>
    (wideRecord? image locator place).map (place, ·)
  guard (record.entriesOnDisk ≤ record.entries)
  guard (record.readerVersion ≤ record.writerVersion)
  guard (record.disk = record.directoryDisk)
  let offset := place - locator.recordPlace
  return { offset, first := record.directoryPlace + offset, entries := record.entries }

def directoryPlace? (image : Image) (endPlace : Nat) : Option DirectoryPlace := do
  let record ← endRecord? image endPlace
  match (if record.mayBeWide then locator? image endPlace else none) with
  | some locator => widePlace? image locator
  | none => ordinaryPlace? image endPlace record

/-! ### Entries -/

def localEnd? (image : Image) (place : Nat) : Option Nat := do
  guard (image.hasSignature localSignature place)
  let nameLength ← image.number? (place + 26) 2
  let extraLength ← image.number? (place + 28) 2
  return place + 30 + nameLength + extraLength

def unicodeFlag : Nat := 11

def decodeText (unicode : Bool) (bytes : List UInt8) : List Char :=
  if unicode then Text.Utf8.decodeLossy bytes else Text.Codepage437.decode bytes

def entryDraft? (image : Image) (place : Nat) : Option (EntryDraft × Nat) := do
  guard (image.hasSignature entrySignature place)
  let flags ← image.number? (place + 8) 2
  let method ← image.number? (place + 10) 2
  let storedSize ← image.number? (place + 20) 4
  let plainSize ← image.number? (place + 24) 4
  let nameLength ← image.number? (place + 28) 2
  let extraLength ← image.number? (place + 30) 2
  let commentLength ← image.number? (place + 32) 2
  let headerPlace ← image.number? (place + 42) 4
  let namePlace := place + entrySize
  let rawName ← image.slice? namePlace nameLength
  let extra ← image.slice? (namePlace + nameLength) extraLength
  let comment ← image.slice? (namePlace + nameLength + extraLength) commentLength
  let unicode := flags.testBit unicodeFlag
  let stated : EntryDraft :=
    { plainSize, storedSize, headerPlace, method := .ofNumber method, rawName
      name := decodeText unicode rawName, comment := decodeText unicode comment }
  let draft ← stated.applyExtra? extra
  return (draft, namePlace + nameLength + extraLength + commentLength)

def entryName? (image : Image) (directory : DirectoryPlace) (place : Nat) :
    Option (List Char × Nat) := do
  let (draft, next) ← entryDraft? image place
  guard (draft.method = .other || draft.hasSeal)
  let localPlace := draft.headerPlace + directory.offset
  guard (localPlace < directory.first)
  let localEnd ← localEnd? image localPlace
  guard (localEnd ≤ directory.first)
  return (draft.name, next)

def entryNames? (image : Image) (directory : DirectoryPlace) :
    Nat → Nat → Option (List (List Char))
  | 0, _ => some []
  | count + 1, place => do
    let (name, next) ← entryName? image directory place
    let names ← entryNames? image directory count next
    return name :: names

/-- The names in the directory, each once, in the order of their first places. -/
def names? (image : Image) : Option (List (List Char)) :=
  (image.signaturePlaces endSignature 0 image.size).reverse.findSome? fun endPlace => do
    let directory ← directoryPlace? image endPlace
    let names ← entryNames? image directory directory.entries directory.first
    return names.eraseDups

end ArtifactCatalog.Archive
