/-
Pages of results. Products and sums of the page's place stop at the greatest word, but a
list whose length is a word is cut in the same places as by exact arithmetic. So the pages
of one size, one behind the other, are the whole list.
-/

import ArtifactCatalog.Proofs.Search.ProjectHits
import Mathlib.Data.List.Nodup

namespace ArtifactCatalog

theorem extract_min_length {α : Type} (results : List α) (start stop : Nat) :
    results.extract (min start results.length) (min stop results.length) =
      results.extract start stop := by
  rw [List.extract_eq_take_drop, List.extract_eq_take_drop]
  by_cases within : start ≤ results.length
  · rw [Nat.min_eq_left within, List.take_eq_take_iff, List.length_drop]
    omega
  · have beyond : results.length ≤ start := Nat.le_of_not_ge within
    rw [Nat.min_eq_right beyond, List.drop_length, List.drop_eq_nil_of_le beyond,
      List.take_nil, List.take_nil]

namespace PageWindow

variable {α : Type}

/-! ### Bounds -/

theorem bounds_valid (w : PageWindow) (total : Nat) :
    (w.bounds total).1 ≤ (w.bounds total).2 ∧ (w.bounds total).2 ≤ total := by
  unfold bounds
  cases w.pageSize with
  | none => exact ⟨Nat.zero_le total, Nat.le_refl total⟩
  | some size =>
      dsimp only
      omega

theorem bounds_ofPage {total : Nat} (counted : total < UInt64.size) (page size : UInt64) :
    (ofPage page size).bounds total =
      (min (page.toNat * size.toNat) total, min ((page.toNat + 1) * size.toNat) total) := by
  have isWord : total ≤ greatestWord := Nat.le_sub_one_of_lt counted
  unfold bounds ofPage
  dsimp only
  rw [Nat.succ_mul, Prod.mk.injEq]
  omega

/-! ### Results -/

theorem select_eq_extract (w : PageWindow) (results : List α) :
    w.select results =
      results.extract (w.bounds results.length).1 (w.bounds results.length).2 :=
  List.drop_take

theorem select_ofPage {results : List α} (counted : results.length < UInt64.size)
    (page size : UInt64) :
    (ofPage page size).select results =
      results.extract (min (page.toNat * size.toNat) results.length)
        (min ((page.toNat + 1) * size.toNat) results.length) := by
  rw [select_eq_extract, bounds_ofPage counted]

theorem select_ofPage_zero (page : UInt64) (results : List α) :
    (ofPage page 0).select results = [] := by
  have nothing : ((ofPage page 0).bounds results.length).2 ≤
      ((ofPage page 0).bounds results.length).1 := by
    unfold bounds ofPage
    dsimp only
    rw [UInt64.toNat_zero]
    omega
  rw [select_eq_extract, List.extract_eq_take_drop, Nat.sub_eq_zero_of_le nothing, List.take_zero]

def firstPages (size : UInt64) (count : Nat) (results : List α) : List α :=
  (List.range count).flatMap fun page => (ofPage (.ofNat page) size).select results

theorem firstPages_eq_take {results : List α} (counted : results.length < UInt64.size)
    (size : UInt64) {count : Nat} (within : count ≤ UInt64.size) :
    firstPages size count results = results.take (count * size.toNat) := by
  unfold firstPages
  induction count with
  | zero => rw [List.range_zero, List.flatMap_nil, Nat.zero_mul, List.take_zero]
  | succ count ih =>
      have isWord : (UInt64.ofNat count).toNat = count := UInt64.toNat_ofNat_of_lt' within
      rw [List.range_succ, List.flatMap_append, ih (Nat.le_of_succ_le within),
        List.flatMap_singleton, select_ofPage counted, isWord, extract_min_length,
        List.extract_eq_take_drop, Nat.succ_mul, List.take_add, Nat.add_sub_cancel_left]

theorem firstPages_eq_self {results : List α} (counted : results.length < UInt64.size)
    {size : UInt64} (nonzero : size ≠ 0) : firstPages size UInt64.size results = results := by
  have positive : 0 < size.toNat :=
    Nat.pos_of_ne_zero fun zero => nonzero (UInt64.toNat_inj.1 zero)
  have enough : UInt64.size ≤ UInt64.size * size.toNat := Nat.le_mul_of_pos_right _ positive
  rw [firstPages_eq_take counted size (Nat.le_refl _)]
  exact List.take_of_length_le (Nat.le_trans (Nat.le_of_lt counted) enough)

end PageWindow

/-! ### Pages of hits -/

/-- Every window shows the range of the results between its bounds, and the range is valid. -/
structure ShowsRanges {α : Type} (results : List α) (shown : PageWindow → List α) : Prop where
  start_le_stop : ∀ window : PageWindow,
    (window.bounds results.length).1 ≤ (window.bounds results.length).2
  stop_le_length : ∀ window : PageWindow, (window.bounds results.length).2 ≤ results.length
  range : ∀ window, shown window =
    results.extract (window.bounds results.length).1 (window.bounds results.length).2
  empty : ∀ page, shown (.ofPage page 0) = []

/-- The pages of any one size follow each other in the results, from the first to the last. -/
structure CutsIntoPages {α : Type} (results : List α) (shown : PageWindow → List α) : Prop where
  page : ∀ page size : UInt64, shown (.ofPage page size) =
    results.extract (min (page.toNat * size.toNat) results.length)
      (min ((page.toNat + 1) * size.toNat) results.length)
  first : ∀ (size : UInt64) (count : Nat), count ≤ UInt64.size →
    ((List.range count).flatMap fun page => shown (.ofPage (.ofNat page) size)) =
      results.take (count * size.toNat)
  whole : ∀ size : UInt64, size ≠ 0 →
    ((List.range UInt64.size).flatMap fun page => shown (.ofPage (.ofNat page) size)) = results

namespace PageWindow

theorem showsRanges_select {α : Type} (results : List α) :
    ShowsRanges results fun window => window.select results where
  start_le_stop window := (window.bounds_valid results.length).1
  stop_le_length window := (window.bounds_valid results.length).2
  range window := window.select_eq_extract results
  empty page := select_ofPage_zero page results

theorem cutsIntoPages_select {α : Type} {results : List α}
    (counted : results.length < UInt64.size) :
    CutsIntoPages results fun window => window.select results where
  page := select_ofPage counted
  first size _count within := firstPages_eq_take counted size within
  whole _size nonzero := firstPages_eq_self counted nonzero

end PageWindow

namespace SearchIndex

theorem search_eq_select (index : SearchIndex) (query : String) (repositories : List String) :
    index.search query repositories =
      fun window => window.select (index.search query repositories .all) := by
  funext window
  unfold search
  rw [PageWindow.select_all]

theorem nodup_search_all (index : SearchIndex) (query : String) (repositories : List String) :
    (index.search query repositories .all).Nodup := by
  rw [search_all]
  exact List.Nodup.of_map _ (listsProjects_groupedMatches _ _).once

/-- A search shows valid ranges of the hits of all pages, which are distinct. As the length of
a list in memory their number is a word of 64 bits, and then the pages of one size are those of
exact arithmetic and make up the hits. -/
theorem search_cutsIntoPages (calls : List IndexCall) (query : String)
    (repositories : List String) :
    ShowsRanges ((ofCalls calls).search query repositories .all)
        ((ofCalls calls).search query repositories) ∧
      ((ofCalls calls).search query repositories .all).Nodup ∧
      (((ofCalls calls).search query repositories .all).length < UInt64.size →
        CutsIntoPages ((ofCalls calls).search query repositories .all)
          ((ofCalls calls).search query repositories)) := by
  have selects := (ofCalls calls).search_eq_select query repositories
  refine ⟨?_, nodup_search_all _ query repositories, fun counted => ?_⟩
  · exact (congrArg (ShowsRanges _) selects).mpr (PageWindow.showsRanges_select _)
  · exact (congrArg (CutsIntoPages _) selects).mpr (PageWindow.cutsIntoPages_select counted)

def threeProjects : List IndexCall :=
  [.withClasses "main" { group := "org", artifact := "app", version := "1" } ["Main"],
    .withClasses "main" { group := "org", artifact := "lib", version := "1" } [],
    .withClasses "main" { group := "org", artifact := "app", version := "2" } [],
    .withClasses "main" { group := "org", artifact := "web", version := "1" } []]

/-- The place of page 2^62 of size four is 2^64, which is no word and behind all hits. -/
theorem search_cutsIntoPages_threeProjects :
    ((ofCalls threeProjects).search "org" ["main"] .all).length < UInt64.size ∧
      CutsIntoPages ((ofCalls threeProjects).search "org" ["main"] .all)
        ((ofCalls threeProjects).search "org" ["main"]) ∧
      (ofCalls threeProjects).search "org" ["main"] (.ofPage 4611686018427387904 4) = [] := by
  have counted : ((ofCalls threeProjects).search "org" ["main"] .all).length < UInt64.size := by
    decide +kernel
  obtain ⟨_ranges, _once, cuts⟩ := search_cutsIntoPages threeProjects "org" ["main"]
  refine ⟨counted, cuts counted, ((cuts counted).page 4611686018427387904 4).trans ?_⟩
  decide +kernel

end SearchIndex

end ArtifactCatalog
