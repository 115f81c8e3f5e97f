/-
Segments of a version text. What follows a dash is read without regard to the
items in front of it, which stay as they are: a version and a suffix behind a
dash are read one after the other.
-/

import ArtifactCatalog.Proofs.Text.Joining
import ArtifactCatalog.Proofs.Version.NormalForm

namespace ArtifactCatalog.Version

/-! ### Settled items -/

/-- Items, the latest first, of which no trimming drops one. -/
def Settled (items : List Item) : Prop := ∀ latest ∈ items.head?, latest.isNull = false

theorem settled_trimNulls_zero (items : List Item) : Settled (trimNulls 0 items) := by
  intro latest atHead
  obtain ⟨earlier, trimmed⟩ := List.head?_eq_some_iff.1 atHead
  exact isNull_of_head_trimNulls trimmed

theorem trimNulls_of_length_le {floor : Nat} {items : List Item} (few : items.length ≤ floor) :
    trimNulls floor items = items := by
  cases items with
  | nil => rfl
  | cons latest earlier =>
      unfold trimNulls
      have notMore : ¬ floor < earlier.length + 1 := by
        rw [List.length_cons] at few
        omega
      simp [notMore]

theorem trimNulls_append_of_length {base : List Item} (floor : Nat) (items : List Item) :
    trimNulls (floor + base.length) (items ++ base) = trimNulls floor items ++ base := by
  induction items with
  | nil => exact trimNulls_of_length_le (Nat.le_add_left base.length floor)
  | cons latest earlier ih =>
      have sameTest : (floor + base.length < (earlier ++ base).length + 1) =
          (floor < earlier.length + 1) := by
        rw [List.length_append]
        exact propext (by omega)
      rw [List.cons_append, trimNulls, trimNulls, ih]
      simp only [sameTest]
      split
      · rfl
      · rfl

theorem trimNulls_zero (items : List Item) : trimNulls 0 items = items.dropWhile Item.isNull := by
  induction items with
  | nil => rfl
  | cons latest earlier ih =>
      rw [trimNulls, ih, List.dropWhile_cons]
      simp

theorem trimNulls_zero_append {base : List Item} (settled : Settled base) (items : List Item) :
    trimNulls 0 (items ++ base) = trimNulls 0 items ++ base := by
  have stays : base.dropWhile Item.isNull = base := by
    cases base with
    | nil => rfl
    | cons latest earlier =>
        exact List.dropWhile_cons_of_neg (by rw [settled latest rfl]; exact Bool.false_ne_true)
  rw [trimNulls_zero, trimNulls_zero, List.dropWhile_append, stays]
  split
  · rename_i nothing
    rw [List.isEmpty_iff.1 nothing]
    rfl
  · rfl

/-! ### The floor of a segment -/

def Reader.Grounded (reader : Reader) : Prop :=
  ∃ current settled, reader.items = current ++ settled ∧ settled.length = reader.floor ∧
    Settled settled

/-- The floor of a segment is where trimming would stop anyway. -/
theorem Reader.Grounded.trimNulls_floor {reader : Reader} (grounded : reader.Grounded) :
    trimNulls reader.floor reader.items = trimNulls 0 reader.items := by
  obtain ⟨current, settled, items, floor, isSettled⟩ := grounded
  have atFloor : trimNulls (0 + settled.length) (current ++ settled) =
      trimNulls 0 current ++ settled := trimNulls_append_of_length 0 current
  rw [Nat.zero_add, floor, ← items] at atFloor
  rw [atFloor, items, trimNulls_zero_append isSettled]

theorem Reader.Grounded.flush {reader : Reader} (grounded : reader.Grounded) :
    reader.flush.Grounded := by
  obtain ⟨current, settled, items, floor, isSettled⟩ := grounded
  unfold Reader.flush
  by_cases absent : reader.token.isEmpty = true
  · rw [if_pos absent]
    exact ⟨current, settled, items, floor, isSettled⟩
  · rw [if_neg absent]
    cases digits : reader.tokenIsDigits with
    | true =>
        refine ⟨.ofDigits reader.token.reverse :: current, settled, ?_, floor, isSettled⟩
        rw [items]
        rfl
    | false =>
        refine ⟨.ofQualifier reader.token.reverse :: trimNulls 0 current, settled, ?_, floor,
          isSettled⟩
        rw [items, trimNulls_zero_append isSettled]
        rfl

theorem Reader.Grounded.endSegment_items {reader : Reader} (grounded : reader.Grounded) :
    reader.endSegment.items = trimNulls 0 reader.flush.items :=
  grounded.flush.trimNulls_floor

theorem Reader.Grounded.endSegment {reader : Reader} (grounded : reader.Grounded) :
    reader.endSegment.Grounded := by
  refine ⟨[], reader.endSegment.items, rfl, rfl, ?_⟩
  rw [grounded.endSegment_items]
  exact settled_trimNulls_zero reader.flush.items

theorem Reader.Grounded.foldl {reader : Reader} (grounded : reader.Grounded) (text : List Char) :
    (text.foldl Reader.step reader).Grounded :=
  Reader.foldl_keeps Reader.Grounded (fun _ => Grounded.flush) (fun _ => Grounded.endSegment)
    (fun _ _ _ unchanged => unchanged) grounded text

theorem Reader.grounded_initial : Reader.Grounded {} :=
  ⟨[], [], rfl, rfl, fun _ impossible => by cases impossible⟩

/-! ### Reading on top of settled items -/

/-- A reader is where another one is, except that it has a base of items below. -/
structure Reader.Above (base : List Item) (reader upper : Reader) : Prop where
  items : reader.items = upper.items ++ base
  floor : reader.floor = upper.floor + base.length
  token : reader.token = upper.token
  tokenIsDigits : reader.token ≠ [] → reader.tokenIsDigits = upper.tokenIsDigits

section Above

variable {base : List Item} {reader upper : Reader}

theorem Reader.Above.flush (above : Reader.Above base reader upper) (settled : Settled base) :
    Reader.Above base reader.flush upper.flush := by
  unfold Reader.flush
  by_cases absent : upper.token.isEmpty = true
  · rw [above.token, if_pos absent, if_pos absent]
    exact above
  · have present : reader.token ≠ [] := by
      rw [above.token]
      exact fun nothing => absent (List.isEmpty_iff.2 nothing)
    rw [above.token, if_neg absent, if_neg absent, above.tokenIsDigits present, above.items]
    refine ⟨?_, above.floor, rfl, fun impossible => absurd rfl impossible⟩
    cases upper.tokenIsDigits with
    | true => rfl
    | false =>
        dsimp only
        rw [trimNulls_zero_append settled]
        rfl

theorem Reader.Above.endSegment (above : Reader.Above base reader upper)
    (settled : Settled base) : Reader.Above base reader.endSegment upper.endSegment := by
  have flushed := above.flush settled
  have trimmed : reader.endSegment.items = upper.endSegment.items ++ base := by
    unfold Reader.endSegment
    dsimp only
    rw [flushed.items, flushed.floor, trimNulls_append_of_length]
  refine ⟨trimmed, ?_, flushed.token, flushed.tokenIsDigits⟩
  change reader.endSegment.items.length = upper.endSegment.items.length + base.length
  rw [trimmed, List.length_append]

theorem Reader.Above.push (above : Reader.Above base reader upper) (settled : Settled base)
    (c : Char) : Reader.Above base (reader.push c) (upper.push c) := by
  have sameTest : (!reader.token.isEmpty && Text.isAsciiDigit c != reader.tokenIsDigits) =
      (!upper.token.isEmpty && Text.isAsciiDigit c != upper.tokenIsDigits) := by
    rw [above.token]
    cases absent : upper.token.isEmpty with
    | true => rfl
    | false =>
        have present : reader.token ≠ [] := by
          rw [above.token]
          exact List.isEmpty_eq_false_iff.1 absent
        rw [above.tokenIsDigits present]
  unfold Reader.push
  dsimp only
  rw [sameTest]
  split
  · have ended := above.endSegment settled
    exact ⟨ended.items, ended.floor, congrArg (c :: ·) ended.token, fun _ => rfl⟩
  · exact ⟨above.items, above.floor, congrArg (c :: ·) above.token, fun _ => rfl⟩

theorem Reader.Above.step (above : Reader.Above base reader upper) (settled : Settled base)
    (c : Char) : Reader.Above base (reader.step c) (upper.step c) := by
  unfold Reader.step
  split
  · exact above.flush settled
  · split
    · exact above.endSegment settled
    · exact above.push settled c

theorem Reader.Above.foldl (above : Reader.Above base reader upper) (settled : Settled base)
    (text : List Char) :
    Reader.Above base (text.foldl Reader.step reader) (text.foldl Reader.step upper) := by
  induction text generalizing reader upper with
  | nil => exact above
  | cons c text ih => exact ih (above.step settled c)

theorem Reader.Above.finish (above : Reader.Above base reader upper) (settled : Settled base) :
    reader.finish = base.reverse ++ upper.finish := by
  unfold Reader.finish
  rw [(above.flush settled).items, trimNulls_zero_append settled, List.reverse_append]

end Above

theorem Reader.token_flush (reader : Reader) : reader.flush.token = [] := by
  unfold Reader.flush
  by_cases absent : reader.token.isEmpty = true
  · rw [if_pos absent]
    exact List.isEmpty_iff.1 absent
  · rw [if_neg absent]

/-- Behind a dash a reader stands on all that the text in front of it is read as. -/
theorem Reader.Grounded.above_dash {reader : Reader} (grounded : reader.Grounded) :
    Reader.Above reader.finish.reverse (reader.step '-') (Reader.step {} '-') := by
  have items : (reader.step '-').items = reader.finish.reverse := by
    unfold Reader.finish
    rw [List.reverse_reverse]
    exact grounded.endSegment_items
  refine ⟨items, ?_, reader.token_flush, fun present => absurd reader.token_flush present⟩
  change (reader.step '-').items.length = 0 + reader.finish.reverse.length
  rw [items, Nat.zero_add]

/-! ### Reading at a place -/

def Reader.behind (front : List Char) : Reader := (Text.trimStart front).foldl Reader.step {}

theorem Reader.grounded_behind (front : List Char) : (Reader.behind front).Grounded :=
  Reader.grounded_initial.foldl (Text.trimStart front)

theorem read_append_cons {c : Char} (stays : Text.isBlank c = false) (front rest : List Char) :
    read (front ++ c :: rest) =
      ((Text.trimEnd rest).foldl Reader.step ((Reader.behind front).step c)).finish := by
  have trimmed : Text.trim (front ++ c :: rest) = Text.trimStart front ++ c :: Text.trimEnd rest :=
    Text.stripWhile_around stays front rest
  unfold read Reader.behind
  rw [trimmed, List.foldl_append, List.foldl_cons]

theorem read_eq_finish_behind {version : List Char}
    (noBlankAtEnd : ∀ last ∈ version.getLast?, Text.isBlank last = false) :
    read version = (Reader.behind version).finish := by
  have trimmed : Text.trim version = Text.trimStart version :=
    Text.stripWhile_eq_dropWhile noBlankAtEnd
  unfold read Reader.behind
  rw [trimmed]

theorem read_append_dash {version : List Char}
    (noBlankAtEnd : ∀ last ∈ version.getLast?, Text.isBlank last = false) (suffix : List Char) :
    read (version ++ '-' :: suffix) = read version ++ read ('-' :: suffix) := by
  have dashStays : Text.isBlank '-' = false := by decide
  have settled : Settled (Reader.behind version).finish.reverse := by
    unfold Reader.finish
    rw [List.reverse_reverse]
    exact settled_trimNulls_zero _
  have above := (Reader.grounded_behind version).above_dash.foldl settled (Text.trimEnd suffix)
  have after := above.finish settled
  rw [List.reverse_reverse] at after
  have alone : read ('-' :: suffix) =
      ((Text.trimEnd suffix).foldl Reader.step (Reader.step {} '-')).finish :=
    read_append_cons dashStays [] suffix
  rw [read_append_cons dashStays, read_eq_finish_behind noBlankAtEnd, alone]
  exact after

end ArtifactCatalog.Version
