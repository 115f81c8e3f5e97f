/-
Reading without a floor. A reader that drops null items all the way back at the end of each
segment takes every text as the same items. The reason is that the floor of a segment always
lies within the items and right behind one that is not null, where trimming ends anyway.
-/

import ArtifactCatalog.Proofs.Version.Runs
import ArtifactCatalog.Proofs.Version.Segments

namespace ArtifactCatalog.Version

/-! ### Reading with another end of segments -/

/-- Takes a character, where `ends` ends the unfinished item and its segment. -/
def Reader.stepBy (ends : Reader → Reader) (reader : Reader) (c : Char) : Reader :=
  if c = '.' then reader.flush
  else if c = '-' ∨ c = '_' then ends reader
  else
    let isDigit := Text.isAsciiDigit c
    let ready :=
      if !reader.token.isEmpty && isDigit != reader.tokenIsDigits then ends reader else reader
    ready.extend c isDigit

def readBy (ends : Reader → Reader) (version : List Char) : List Item :=
  ((Text.trim version).foldl (Reader.stepBy ends) {}).finish

/-- Ends the unfinished item and drops all null items at the end, of this segment or not. -/
def Reader.endUnfloored (reader : Reader) : Reader :=
  { reader.flush with items := trimNulls 0 reader.flush.items }

theorem Reader.stepBy_endSegment : Reader.stepBy Reader.endSegment = Reader.step := rfl

/-! ### Readers that differ in the floor -/

/-- The same reader but for its floor. -/
structure Reader.SameButFloor (reader other : Reader) : Prop where
  items : reader.items = other.items
  token : reader.token = other.token
  tokenIsDigits : reader.tokenIsDigits = other.tokenIsDigits

section SameButFloor

variable {reader other : Reader}

theorem Reader.SameButFloor.flush (same : reader.SameButFloor other) :
    reader.flush.SameButFloor other.flush := by
  unfold Reader.flush
  rw [same.items, same.token, same.tokenIsDigits]
  split
  · exact same
  · exact ⟨rfl, rfl, rfl⟩

theorem Reader.SameButFloor.endSegment (same : reader.SameButFloor other)
    (grounded : reader.Grounded) : reader.endSegment.SameButFloor other.endUnfloored where
  items := by
    rw [grounded.endSegment_items, same.flush.items]
    rfl
  token := same.flush.token
  tokenIsDigits := same.flush.tokenIsDigits

theorem Reader.SameButFloor.extend (same : reader.SameButFloor other) (c : Char)
    (isDigits : Bool) : (reader.extend c isDigits).SameButFloor (other.extend c isDigits) where
  items := same.items
  token := congrArg (c :: ·) same.token
  tokenIsDigits := rfl

theorem Reader.SameButFloor.step (same : reader.SameButFloor other) (grounded : reader.Grounded)
    (c : Char) : (reader.step c).SameButFloor (other.stepBy Reader.endUnfloored c) := by
  rw [← Reader.stepBy_endSegment]
  unfold Reader.stepBy
  split
  · exact same.flush
  · split
    · exact same.endSegment grounded
    · dsimp only
      rw [same.token, same.tokenIsDigits]
      split
      · exact (same.endSegment grounded).extend c _
      · exact same.extend c _

theorem Reader.SameButFloor.foldl (same : reader.SameButFloor other) (grounded : reader.Grounded)
    (text : List Char) :
    (text.foldl Reader.step reader).SameButFloor
      (text.foldl (Reader.stepBy Reader.endUnfloored) other) := by
  induction text generalizing reader other with
  | nil => exact same
  | cons c text ih => exact ih (same.step grounded c) (grounded.foldl [c])

theorem Reader.SameButFloor.finish (same : reader.SameButFloor other) :
    reader.finish = other.finish := by
  unfold Reader.finish
  rw [same.flush.items]

end SameButFloor

theorem readBy_endUnfloored (version : List Char) :
    readBy Reader.endUnfloored version = read version := by
  have initial : Reader.SameButFloor {} {} := ⟨rfl, rfl, rfl⟩
  have final := initial.foldl Reader.grounded_initial (Text.trim version)
  exact final.finish.symm

/-! ### The place of the floor -/

/-- The floor lies within the items, and the item right in front of it is not null. -/
structure Reader.FloorStands (reader : Reader) : Prop where
  within : reader.floor ≤ reader.items.length
  setInFront : ∀ place item, reader.floor = place + 1 →
    reader.items.reverse[place]? = some item → item.isNull = false

/-- The floor stands while null items are dropped, from the first of them to the last. -/
def Reader.FloorHolds (reader : Reader) : Prop :=
  ∀ kept, trimNulls 0 reader.items <:+ kept → kept <:+ reader.items →
    Reader.FloorStands { reader with items := kept }

theorem Reader.floorStands_of_suffix {reader : Reader} {settled : List Item}
    (below : settled <:+ reader.items) (atFloor : settled.length = reader.floor)
    (isSettled : Settled settled) : reader.FloorStands where
  within := by
    rw [← atFloor]
    exact below.length_le
  setInFront := by
    intro place item inFront isItem
    obtain ⟨current, split⟩ := below
    cases settled with
    | nil =>
        rw [inFront] at atFloor
        cases atFloor
    | cons latest earlier =>
        have lastPlace : earlier.length = place := by
          rw [inFront] at atFloor
          exact Nat.succ.inj atFloor
        rw [← split, List.reverse_append, List.reverse_cons, List.append_assoc,
          ← lastPlace, ← List.length_reverse, List.getElem?_append_right (Nat.le_refl _),
          Nat.sub_self] at isItem
        rw [← Option.some.inj isItem]
        exact isSettled latest rfl

theorem Reader.Grounded.floorHolds {reader : Reader} (grounded : reader.Grounded) :
    reader.FloorHolds := by
  intro kept trimmed _within
  obtain ⟨current, settled, items, atFloor, isSettled⟩ := grounded
  have below : settled <:+ trimNulls 0 reader.items := by
    rw [items, trimNulls_zero_append isSettled]
    exact List.suffix_append _ _
  exact Reader.floorStands_of_suffix (below.trans trimmed) atFloor isSettled

end ArtifactCatalog.Version

namespace ArtifactCatalog

open Version in
/-- The floor of a segment could be left out: a reader that trims all the way back reads every
version alike. Behind every text, and likewise once its last item or segment has ended, the floor
lies within the items and right behind one that is not null, also while null items are dropped. -/
theorem version_read_floorless :
    (∀ version : String, readBy Reader.endUnfloored version.toList = read version.toList) ∧
      ∀ text : List Char, (text.foldl Reader.step {}).FloorHolds ∧
        (text.foldl Reader.step {}).flush.FloorHolds ∧
        (text.foldl Reader.step {}).endSegment.FloorHolds := by
  refine ⟨fun version => readBy_endUnfloored version.toList, ?_⟩
  intro text
  have grounded := Reader.grounded_initial.foldl text
  exact ⟨grounded.floorHolds, grounded.flush.floorHolds, grounded.endSegment.floorHolds⟩

end ArtifactCatalog
