/-
Reading a version text as a list of items. A dot ends an item; a dash, an
underscore and a change between digits and other characters also end a
segment, whose trailing null items are dropped. A qualifier never follows a
null item.
-/

import ArtifactCatalog.Text.Blank
import ArtifactCatalog.Version.Item

namespace ArtifactCatalog.Version

/-- Drops null items from the latest on, while more than `floor` are left. The
latest item stands first. -/
def trimNulls (floor : Nat) : List Item → List Item
  | [] => []
  | item :: earlier =>
    if floor < earlier.length + 1 && item.isNull then trimNulls floor earlier
    else item :: earlier

structure Reader where
  /-- The items read, the latest first. -/
  items : List Item := []
  /-- How many of the items belong to earlier segments. -/
  floor : Nat := 0
  token : List Char := []
  tokenIsDigits : Bool := false
deriving DecidableEq, Repr

def Reader.flush (reader : Reader) : Reader :=
  if reader.token.isEmpty then reader
  else
    let items :=
      if reader.tokenIsDigits then Item.ofDigits reader.token.reverse :: reader.items
      else Item.ofQualifier reader.token.reverse :: trimNulls 0 reader.items
    { reader with items, token := [] }

def Reader.endSegment (reader : Reader) : Reader :=
  let flushed := reader.flush
  let items := trimNulls flushed.floor flushed.items
  { flushed with items, floor := items.length }

def Reader.push (reader : Reader) (c : Char) : Reader :=
  let isDigit := Text.isAsciiDigit c
  let ready :=
    if !reader.token.isEmpty && isDigit != reader.tokenIsDigits then reader.endSegment
    else reader
  { ready with token := c :: ready.token, tokenIsDigits := isDigit }

def Reader.step (reader : Reader) (c : Char) : Reader :=
  if c = '.' then reader.flush
  else if c = '-' ∨ c = '_' then reader.endSegment
  else reader.push c

def Reader.finish (reader : Reader) : List Item :=
  (trimNulls 0 reader.flush.items).reverse

/-- The items of a version text; blanks around the text do not count. -/
def read (version : List Char) : List Item :=
  ((Text.trim version).foldl Reader.step {}).finish

end ArtifactCatalog.Version
