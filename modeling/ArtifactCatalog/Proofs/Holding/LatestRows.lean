/-
The store of holdings as a finite map from keys to rows. Recording a row is one
update of the map, and after a run of recordings the rows are the last ones of
their keys, in the order in which these last ones were recorded. A checksum finds
the rows among them that have it now.
-/

import ArtifactCatalog.Proofs.Holding.Recording
import ArtifactCatalog.Proofs.Query.Catalog
import ArtifactCatalog.Proofs.Text.Spelling
import Mathlib.Data.Finset.Dedup
import Mathlib.Data.Finset.Card

namespace ArtifactCatalog

namespace Holding

variable {recorded later : List Holding} {holding row : Holding}

/-! ### The last recordings -/

def IsLatest (recorded : List Holding) (row : Holding) : Prop :=
  ∃ before after, recorded = before ++ row :: after ∧ ∀ newer ∈ after, row.key ≠ newer.key

def LatestBefore (recorded : List Holding) (earlier later : Holding) : Prop :=
  ∃ before after, recorded = before ++ earlier :: after ∧
    (∀ newer ∈ after, earlier.key ≠ newer.key) ∧ IsLatest after later

/-- The rows are the last recorded ones of their keys that are also `kept`, each key once,
in the order of these recordings. -/
structure ListsLatest (recorded : List Holding) (kept : Holding → Prop)
    (rows : List Holding) : Prop where
  distinct : (rows.map key).Nodup
  complete : ∀ row, row ∈ rows ↔ IsLatest recorded row ∧ kept row
  ordered : rows.Pairwise (LatestBefore recorded)

theorem isLatest_cons : IsLatest (holding :: later) row ↔
    (row = holding ∧ row.survives later = true) ∨ IsLatest later row := by
  rw [survives_iff]
  unfold IsLatest
  constructor
  · rintro ⟨before, after, split, last⟩
    cases before with
    | nil =>
        rw [List.nil_append, List.cons.injEq] at split
        obtain ⟨rfl, rfl⟩ := split
        exact Or.inl ⟨rfl, last⟩
    | cons first rest =>
        rw [List.cons_append, List.cons.injEq] at split
        exact Or.inr ⟨rest, after, split.2, last⟩
  · rintro (⟨rfl, last⟩ | ⟨before, after, rfl, last⟩)
    · exact ⟨[], later, rfl, last⟩
    · exact ⟨holding :: before, after, rfl, last⟩

theorem LatestBefore.cons {earlier newer : Holding} (ordered : LatestBefore later earlier newer)
    (holding : Holding) : LatestBefore (holding :: later) earlier newer := by
  obtain ⟨before, after, rfl, last, inAfter⟩ := ordered
  exact ⟨holding :: before, after, rfl, last, inAfter⟩

theorem mem_latest_iff : row ∈ latest recorded ↔ IsLatest recorded row := by
  induction recorded with
  | nil =>
      constructor
      · intro member
        cases member
      · rintro ⟨before, after, split, _last⟩
        cases before <;> cases split
  | cons holding later ih =>
      rw [latest_cons, List.mem_append, List.mem_filter, List.mem_singleton, ih, isLatest_cons]

theorem pairwise_latest (recorded : List Holding) :
    (latest recorded).Pairwise (LatestBefore recorded) := by
  induction recorded with
  | nil => exact List.Pairwise.nil
  | cons holding later ih =>
      rw [latest_cons, List.pairwise_append]
      refine ⟨(List.pairwise_singleton _ _).filter _, ih.imp fun ordered => ordered.cons holding, ?_⟩
      intro first isFirst other isOther
      obtain ⟨here, stays⟩ := List.mem_filter.1 isFirst
      obtain rfl := List.mem_singleton.1 here
      exact ⟨[], later, rfl, survives_iff.1 stays, mem_latest_iff.1 isOther⟩

theorem listsLatest_latest (recorded : List Holding) :
    ListsLatest recorded (fun _ => True) (latest recorded) where
  distinct := by
    rw [map_key_latest]
    exact List.nodup_dedup _
  complete row := by
    rw [mem_latest_iff, and_true]
  ordered := pairwise_latest recorded

/-- A choice among the rows leaves out keys, and changes neither the others nor their order. -/
theorem ListsLatest.filter {kept : Holding → Prop} {rows : List Holding}
    (lists : ListsLatest recorded kept rows) (chosen : Holding → Bool) :
    ListsLatest recorded (fun row => kept row ∧ chosen row = true) (rows.filter chosen) where
  distinct := lists.distinct.sublist (List.filter_sublist.map key)
  complete row := by
    rw [List.mem_filter, lists.complete, and_assoc]
  ordered := lists.ordered.filter _

end Holding

/-! ### The map -/

namespace HoldingStore

def held? (store : HoldingStore) (key : HoldingKey) : Option Holding :=
  store.rows.find? fun row => row.key == key

def hold (held : HoldingKey → Option Holding) (row : Holding) : HoldingKey → Option Holding :=
  Function.update held row.key (some row)

theorem held?_record (store : HoldingStore) (holding : Holding) :
    (store.record holding).held? = hold store.held? holding := by
  funext key
  unfold held? record hold
  rw [List.find?_append, List.find?_filter]
  by_cases same : key = holding.key
  · subst same
    rw [Function.update_self, List.find?_singleton, beq_self_eq_true, if_pos rfl]
    have replaced : store.rows.find? (fun row =>
        decide ((row.key != holding.key) = true ∧ (row.key == holding.key) = true)) = none := by
      rw [List.find?_eq_none]
      simp
    rw [replaced, Option.none_or]
  · have differ : (holding.key == key) = false := beq_false_of_ne (Ne.symm same)
    rw [Function.update_of_ne same, List.find?_singleton, differ, if_neg Bool.false_ne_true,
      Option.or_none]
    congr 1
    funext row
    grind

/-- The map after a run: the updates of its recordings, one after the other. -/
theorem held?_recordAll (store : HoldingStore) (recorded : List Holding) :
    (store.recordAll recorded).held? = recorded.foldl hold store.held? := by
  unfold recordAll
  induction recorded generalizing store with
  | nil => rfl
  | cons holding later ih =>
      rw [List.foldl_cons, List.foldl_cons, ih, held?_record]

variable (recorded : List Holding)

theorem length_rows_recordAll :
    (({} : HoldingStore).recordAll recorded).rows.length =
      (recorded.map Holding.key).toFinset.card := by
  rw [rows_recordAll_empty, List.card_toFinset, ← Holding.map_key_latest, List.length_map]

theorem listsLatest_withChecksum (checksum : String) :
    Holding.ListsLatest recorded
      (fun row => Text.SameButForCase row.checksum.toList checksum.toList)
      ((({} : HoldingStore).recordAll recorded).withChecksum checksum) := by
  have kept : (fun row : Holding => Text.SameButForCase row.checksum.toList checksum.toList) =
      fun row => True ∧
        Text.sameIgnoringAsciiCase row.checksum.toList checksum.toList = true := by
    funext row
    rw [true_and, Text.sameIgnoringAsciiCase_iff]
  unfold withChecksum
  rw [kept, rows_recordAll_empty]
  exact (Holding.listsLatest_latest recorded).filter _

/-- The store is a map from keys to the rows last recorded under them, its rows are these in
the order of recording, and a checksum finds those among them that have it. -/
theorem recordAll_refinesMap :
    (({} : HoldingStore).recordAll recorded).held? =
        recorded.foldl hold (fun _ => none) ∧
      Holding.ListsLatest recorded (fun _ => True) (({} : HoldingStore).recordAll recorded).rows ∧
      (({} : HoldingStore).recordAll recorded).rows.length =
        (recorded.map Holding.key).toFinset.card ∧
      ∀ (catalog : Catalog) (order : VersionOrder) (observed : List String) (checksum : String),
        ∃ found,
          (({ catalog with store := ({} : HoldingStore).recordAll recorded } : Catalog).sources
            order observed).findByChecksum checksum = .ok (found.map LocatedArtifact.ofHolding) ∧
          Holding.ListsLatest recorded
            (fun row => Text.SameButForCase row.checksum.toList checksum.toList) found := by
  refine ⟨held?_recordAll {} recorded, ?_, length_rows_recordAll recorded, ?_⟩
  · rw [rows_recordAll_empty]
    exact Holding.listsLatest_latest recorded
  · intro catalog order observed checksum
    exact ⟨_, rfl, listsLatest_withChecksum recorded checksum⟩

end HoldingStore

end ArtifactCatalog
