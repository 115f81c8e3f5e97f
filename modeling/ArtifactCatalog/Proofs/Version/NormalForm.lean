/-
Normal form of the items of a version text. Reading never leaves a null item at
the end and never puts a qualifier right behind a null item. Behind a null item
there is therefore always a number above zero.
-/

import ArtifactCatalog.Version.Reading
import Mathlib.Data.List.Chain

namespace ArtifactCatalog.Version

def Item.isNumber : Item → Bool
  | .number _ => true
  | .qualifier _ => false

/-- What may stand right behind an item: after a null item only a number. -/
def Item.AllowsNext (item next : Item) : Prop :=
  item.isNull = true → next.isNumber = true

structure NormalItems (items : List Item) : Prop where
  lastIsSet : ∀ last, items.getLast? = some last → last.isNull = false
  chain : items.IsChain Item.AllowsNext

/-! ### Consequences -/

theorem NormalItems.tail {item : Item} {rest : List Item}
    (normal : NormalItems (item :: rest)) : NormalItems rest := by
  refine ⟨?_, normal.chain.tail⟩
  intro last atEnd
  apply normal.lastIsSet last
  rw [List.getLast?_cons, atEnd]
  rfl

/-- The number above zero that follows a null item is what a list that starts
with the null item has over the empty list. -/
theorem NormalItems.compareItems_nil_of_isNull {item : Item} {rest : List Item}
    (normal : NormalItems (item :: rest)) (null : item.isNull = true) :
    compareItems rest [] = .gt := by
  induction rest generalizing item with
  | nil =>
      have set := normal.lastIsSet item rfl
      rw [null] at set
      cases set
  | cons next rest ih =>
      have isNumber : next.isNumber = true := (List.isChain_cons_cons.1 normal.chain).1 null
      cases next with
      | qualifier text => cases isNumber
      | number digits =>
          cases digits with
          | nil =>
              have later := ih normal.tail rfl
              simpa [compareItems, Item.compareToAbsent] using later
          | cons digit digits => simp [compareItems, Item.compareToAbsent]

/-! ### The reader keeps the chain -/

theorem trimNulls_suffix (floor : Nat) (items : List Item) : trimNulls floor items <:+ items := by
  induction items with
  | nil => exact List.suffix_rfl
  | cons item earlier ih =>
      unfold trimNulls
      split
      · exact ih.trans (List.suffix_cons item earlier)
      · exact List.suffix_rfl

theorem isNull_of_head_trimNulls {items : List Item} {latest : Item} {earlier : List Item}
    (trimmed : trimNulls 0 items = latest :: earlier) : latest.isNull = false := by
  induction items with
  | nil => cases trimmed
  | cons item rest ih =>
      unfold trimNulls at trimmed
      cases null : item.isNull with
      | true =>
          rw [null] at trimmed
          exact ih (by simpa using trimmed)
      | false =>
          rw [null] at trimmed
          have same : item = latest := (List.cons.inj (by simpa using trimmed)).1
          rw [← same]
          exact null

/-- What stays true when an item or a segment ends, and does not depend on the
unfinished item, stays true over a whole text. -/
theorem Reader.foldl_keeps (holds : Reader → Prop)
    (flush : ∀ reader, holds reader → holds reader.flush)
    (endSegment : ∀ reader, holds reader → holds reader.endSegment)
    (unfinished : ∀ reader token isDigits, holds reader →
      holds { reader with token := token, tokenIsDigits := isDigits })
    {reader : Reader} (initial : holds reader) (text : List Char) :
    holds (text.foldl Reader.step reader) := by
  induction text generalizing reader with
  | nil => exact initial
  | cons c text ih =>
      apply ih
      unfold Reader.step
      split
      · exact flush reader initial
      · split
        · exact endSegment reader initial
        · unfold Reader.push
          dsimp only
          split
          · exact unfinished _ _ _ (endSegment reader initial)
          · exact unfinished _ _ _ initial

def Reader.Linked (reader : Reader) : Prop :=
  reader.items.IsChain fun later earlier => earlier.AllowsNext later

theorem Reader.Linked.flush {reader : Reader} (linked : reader.Linked) :
    reader.flush.Linked := by
  unfold Reader.flush
  by_cases absent : reader.token.isEmpty = true
  · rw [if_pos absent]
    exact linked
  · rw [if_neg absent]
    cases digits : reader.tokenIsDigits with
    | true =>
        exact List.IsChain.cons linked fun _ _ _ => rfl
    | false =>
        refine List.IsChain.cons (linked.suffix (trimNulls_suffix 0 reader.items)) ?_
        intro latest atHead null
        obtain ⟨earlier, trimmed⟩ := List.head?_eq_some_iff.1 atHead
        rw [isNull_of_head_trimNulls trimmed] at null
        cases null

theorem Reader.Linked.endSegment {reader : Reader} (linked : reader.Linked) :
    reader.endSegment.Linked :=
  linked.flush.suffix (trimNulls_suffix _ _)

theorem Reader.Linked.foldl {reader : Reader} (linked : reader.Linked) (text : List Char) :
    (text.foldl Reader.step reader).Linked :=
  Reader.foldl_keeps Reader.Linked (fun _ => Linked.flush) (fun _ => Linked.endSegment)
    (fun _ _ _ unchanged => unchanged) linked text

theorem Reader.Linked.normalItems_finish {reader : Reader} (linked : reader.Linked) :
    NormalItems reader.finish := by
  unfold Reader.finish
  constructor
  · intro last atEnd
    rw [List.getLast?_reverse] at atEnd
    obtain ⟨earlier, trimmed⟩ := List.head?_eq_some_iff.1 atEnd
    exact isNull_of_head_trimNulls trimmed
  · rw [List.isChain_reverse]
    exact linked.flush.suffix (trimNulls_suffix 0 _)

theorem read_normalItems (version : List Char) : NormalItems (read version) := by
  have initial : Reader.Linked {} := List.IsChain.nil
  exact (initial.foldl (Text.trim version)).normalItems_finish

end ArtifactCatalog.Version
