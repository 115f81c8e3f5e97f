/-
Lists without repetitions that keep the first occurrence of each value. They are
in the order of the places where the values first occur.
-/

import Mathlib.Data.List.Induction

namespace ArtifactCatalog

theorem nodup_eraseDups {α : Type} [BEq α] [LawfulBEq α] (items : List α) :
    items.eraseDups.Nodup := by
  cases items with
  | nil => exact List.nodup_nil
  | cons head tail =>
      rw [List.eraseDups_cons, List.nodup_cons]
      refine ⟨?_, nodup_eraseDups (tail.filter fun item => !item == head)⟩
      intro member
      have kept := (List.mem_filter.1 (List.mem_eraseDups.1 member)).2
      simp at kept
termination_by items.length
decreasing_by exact Nat.lt_succ_of_le (List.length_filter_le _ _)

theorem eraseDups_append_singleton_of_mem {α : Type} [BEq α] [LawfulBEq α] {items : List α}
    {item : α} (known : item ∈ items) : (items ++ [item]).eraseDups = items.eraseDups := by
  have nothing : [item].removeAll items = [] := by
    simp [List.removeAll, known]
  rw [List.eraseDups_append, nothing, List.eraseDups_nil, List.append_nil]

theorem eraseDups_append_singleton_of_not_mem {α : Type} [BEq α] [LawfulBEq α]
    {items : List α} {item : α} (new : item ∉ items) :
    (items ++ [item]).eraseDups = items.eraseDups ++ [item] := by
  have all : [item].removeAll items = [item] := by
    simp [List.removeAll, new]
  rw [List.eraseDups_append, all]
  rfl

theorem eraseDups_map {α β : Type} [BEq α] [LawfulBEq α] [BEq β] [LawfulBEq β] {f : α → β}
    (injective : f.Injective) (items : List α) :
    (items.map f).eraseDups = items.eraseDups.map f := by
  induction items using List.reverseRecOn with
  | nil => rfl
  | append_singleton items item ih =>
      rw [List.map_append, List.map_singleton]
      by_cases known : item ∈ items
      · rw [eraseDups_append_singleton_of_mem known,
          eraseDups_append_singleton_of_mem (List.mem_map_of_mem known), ih]
      · have new : f item ∉ items.map f := by
          intro member
          obtain ⟨other, isItem, same⟩ := List.mem_map.1 member
          rw [injective same] at isItem
          exact known isItem
        rw [eraseDups_append_singleton_of_not_mem known,
          eraseDups_append_singleton_of_not_mem new, ih, List.map_append, List.map_singleton]

/-- Where the first item lies that passes a test and has a value. -/
def firstPlace {ι α : Type} [BEq α] (test : ι → Bool) (value : ι → α) (items : List ι)
    (sought : α) : Nat :=
  items.findIdx fun item => test item && value item == sought

theorem firstPlace_append_singleton {ι α : Type} [BEq α] [LawfulBEq α] (test : ι → Bool)
    (value : ι → α) (items : List ι) (item : ι) {sought : α}
    (occurs : sought ∈ (items.filter test).map value) :
    firstPlace test value (items ++ [item]) sought = firstPlace test value items sought ∧
      firstPlace test value items sought < items.length := by
  obtain ⟨found, member, same⟩ := List.mem_map.1 occurs
  obtain ⟨isItem, passes⟩ := List.mem_filter.1 member
  have within : firstPlace test value items sought < items.length := by
    apply List.findIdx_lt_length_of_exists
    exact ⟨found, isItem, by simp [passes, same]⟩
  refine ⟨?_, within⟩
  unfold firstPlace at within ⊢
  rw [List.findIdx_append, if_pos within]

theorem length_le_firstPlace {ι α : Type} [BEq α] [LawfulBEq α] (test : ι → Bool)
    (value : ι → α) (items : List ι) (item : ι) {sought : α}
    (absent : sought ∉ (items.filter test).map value) :
    items.length ≤ firstPlace test value (items ++ [item]) sought := by
  have none : ∀ other ∈ items, (test other && value other == sought) = false := by
    intro other member
    cases passes : test other with
    | false => rfl
    | true =>
        have differs : value other ≠ sought := by
          intro same
          apply absent
          rw [← same]
          exact List.mem_map_of_mem (List.mem_filter.2 ⟨member, passes⟩)
        simp [differs]
  unfold firstPlace
  rw [List.findIdx_append, List.findIdx_eq_length_of_false none, if_neg (Nat.lt_irrefl _)]
  exact Nat.le_add_left _ _

theorem pairwise_firstPlace {ι α : Type} [BEq α] [LawfulBEq α] (test : ι → Bool)
    (value : ι → α) (items : List ι) :
    ((items.filter test).map value).eraseDups.Pairwise fun earlier later =>
      firstPlace test value items earlier < firstPlace test value items later := by
  induction items using List.reverseRecOn with
  | nil => exact List.Pairwise.nil
  | append_singleton items item ih =>
      have before : ((items.filter test).map value).eraseDups.Pairwise fun earlier later =>
          firstPlace test value (items ++ [item]) earlier <
            firstPlace test value (items ++ [item]) later := by
        apply ih.imp_of_mem
        intro earlier later isEarlier isLater less
        rw [(firstPlace_append_singleton test value items item
            (List.mem_eraseDups.1 isEarlier)).1,
          (firstPlace_append_singleton test value items item (List.mem_eraseDups.1 isLater)).1]
        exact less
      cases passes : test item with
      | false =>
          have unchanged : (items ++ [item]).filter test = items.filter test := by
            simp [passes]
          rw [unchanged]
          exact before
      | true =>
          have grown : ((items ++ [item]).filter test).map value =
              (items.filter test).map value ++ [value item] := by
            simp [passes]
          rw [grown]
          by_cases known : value item ∈ (items.filter test).map value
          · rw [eraseDups_append_singleton_of_mem known]
            exact before
          · rw [eraseDups_append_singleton_of_not_mem known, List.pairwise_append]
            refine ⟨before, List.pairwise_singleton _ _, ?_⟩
            intro earlier isEarlier later isLater
            have old := firstPlace_append_singleton test value items item
              (List.mem_eraseDups.1 isEarlier)
            rw [old.1, List.mem_singleton.1 isLater]
            exact Nat.lt_of_lt_of_le old.2 (length_le_firstPlace test value items item known)

end ArtifactCatalog
