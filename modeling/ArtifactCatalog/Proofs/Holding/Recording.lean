/-
What a store holds after a run of recordings: the rows from before whose keys
were not recorded again, and then the last row of each recorded key.
-/

import ArtifactCatalog.Holding
import Mathlib.Data.List.Dedup

namespace ArtifactCatalog

namespace Holding

def survives (later : List Holding) (row : Holding) : Bool :=
  later.all fun newer => row.key != newer.key

theorem survives_iff {later : List Holding} {row : Holding} :
    row.survives later = true ↔ ∀ newer ∈ later, row.key ≠ newer.key := by
  simp [survives]

/-- The last row of each key, in the order of these rows. -/
def latest (holdings : List Holding) : List Holding :=
  holdings.pwFilter fun earlier later => earlier.key ≠ later.key

theorem latest_cons (holding : Holding) (later : List Holding) :
    latest (holding :: later) = [holding].filter (survives later) ++ latest later := by
  have throughLatest : (∀ newer ∈ latest later, holding.key ≠ newer.key) ↔
      holding.survives later = true := by
    refine Iff.trans ?_ survives_iff.symm
    apply List.forall_mem_pwFilter
    intro row between newer differ
    rw [← not_and_or]
    rintro ⟨same, sameToo⟩
    exact differ (same.trans sameToo)
  unfold latest at throughLatest ⊢
  cases stays : holding.survives later with
  | true =>
      rw [List.pwFilter_cons_of_pos (throughLatest.2 stays), List.filter_cons_of_pos stays]
      rfl
  | false =>
      have replaced : ¬ holding.survives later = true := by
        rw [stays]
        exact Bool.false_ne_true
      rw [List.pwFilter_cons_of_neg (fun differs => replaced (throughLatest.1 differs)),
        List.filter_cons_of_neg replaced]
      rfl

theorem map_key_latest (holdings : List Holding) :
    (latest holdings).map key = (holdings.map key).dedup :=
  (List.pwFilter_map (R := fun a b : HoldingKey => a ≠ b) key holdings).symm

theorem latest_eq_self {holdings : List Holding} (distinct : (holdings.map key).Nodup) :
    latest holdings = holdings :=
  List.pwFilter_eq_self.2 (List.pairwise_map.1 distinct)

end Holding

namespace HoldingStore

def recordAll (store : HoldingStore) (holdings : List Holding) : HoldingStore :=
  holdings.foldl record store

theorem rows_recordAll (store : HoldingStore) (holdings : List Holding) :
    (store.recordAll holdings).rows =
      store.rows.filter (Holding.survives holdings) ++ Holding.latest holdings := by
  induction holdings generalizing store with
  | nil =>
      have all : store.rows.filter (Holding.survives []) = store.rows :=
        List.filter_eq_self.2 fun _ _ => rfl
      rw [all]
      exact (List.append_nil store.rows).symm
  | cons holding later ih =>
      have both : (fun row : Holding => row.survives later && row.key != holding.key) =
          Holding.survives (holding :: later) := by
        funext row
        exact Bool.and_comm _ _
      change ((store.record holding).recordAll later).rows = _
      rw [ih, record, List.filter_append, List.filter_filter, both, List.append_assoc,
        ← Holding.latest_cons]

theorem rows_recordAll_empty (holdings : List Holding) :
    (({} : HoldingStore).recordAll holdings).rows = Holding.latest holdings :=
  rows_recordAll {} holdings

end HoldingStore

end ArtifactCatalog
