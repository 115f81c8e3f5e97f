/-
The order of releases is a total preorder of all texts. Every item gets a
standing, a list of numbers, and the end of a list gets one as well: below the
release qualifiers and above the stages that precede a release. Lists in normal
form compare like the lists of their standings, the end included. Without the
normal form the padded comparison is not transitive.
-/

import ArtifactCatalog.Proofs.Version.NormalForm
import ArtifactCatalog.Version.Order

namespace ArtifactCatalog.Version

/-! ### Standings -/

def codePoints (text : List Char) : List Nat := text.map Char.toNat

/-- Ranks are doubled, which leaves room for the end of a list. -/
def Item.standing : Item → List Nat
  | .number digits => (2 * unknownRank + 1) :: digits.length :: codePoints digits
  | .qualifier text =>
      2 * qualifierRank text ::
        if qualifierRank text = unknownRank then codePoints text else []

def endStanding : List Nat := [2 * releaseRank - 1]

def standings (items : List Item) : List (List Nat) :=
  items.map Item.standing ++ [endStanding]

theorem compareText_eq_compare_codePoints (s t : List Char) :
    Text.compareText s t = compare (codePoints s) (codePoints t) := by
  induction s generalizing t with
  | nil => cases t <;> rfl
  | cons c s ih =>
      cases t with
      | nil => rfl
      | cons d t =>
          simp only [Text.compareText, codePoints, List.map_cons, List.compare_cons_cons]
          rw [ih t]
          rfl

private theorem compare_double (m n : Nat) : compare (2 * m) (2 * n) = compare m n := by
  rcases Nat.lt_trichotomy m n with below | same | above
  · rw [Nat.compare_eq_lt.2 below, Nat.compare_eq_lt.2 (by omega)]
  · rw [same]
    simp
  · rw [Nat.compare_eq_gt.2 above, Nat.compare_eq_gt.2 (by omega)]

theorem qualifierRank_le (text : List Char) : qualifierRank text ≤ unknownRank := by
  unfold qualifierRank
  split
  · rename_i name rank found
    have member := List.mem_of_find?_eq_some found
    have bounded : ∀ entry ∈ rankedQualifiers, entry.2 ≤ unknownRank := by decide
    exact bounded _ member
  · exact Nat.le_refl unknownRank

theorem compareQualifiers_eq_compare_standing (s t : List Char) :
    compareQualifiers s t =
      compare (Item.qualifier s).standing (Item.qualifier t).standing := by
  unfold compareQualifiers Item.standing
  rw [List.compare_cons_cons, compare_double]
  by_cases same : qualifierRank s = qualifierRank t
  · rw [same]
    by_cases unknown : qualifierRank t = unknownRank
    · rw [if_pos unknown, if_pos unknown, if_pos unknown, compareText_eq_compare_codePoints]
    · rw [if_neg unknown, if_neg unknown, if_neg unknown]
      rfl
  · have differs : compare (qualifierRank s) (qualifierRank t) ≠ .eq := by
      intro equal
      exact same (Nat.compare_eq_eq.1 equal)
    cases decided : compare (qualifierRank s) (qualifierRank t) with
    | eq => exact absurd decided differs
    | lt => rfl
    | gt => rfl

theorem compare_item_eq_compare_standing (a b : Item) :
    a.compare b = compare a.standing b.standing := by
  cases a with
  | number digits =>
      cases b with
      | number others =>
          simp only [Item.compare, compareDigits, Item.standing, List.compare_cons_cons,
            compareText_eq_compare_codePoints]
          simp
      | qualifier text =>
          have bounded := qualifierRank_le text
          have above : compare (2 * unknownRank + 1) (2 * qualifierRank text) = .gt :=
            Nat.compare_eq_gt.2 (by omega)
          simp only [Item.compare, Item.standing, List.compare_cons_cons, above]
          rfl
  | qualifier text =>
      cases b with
      | number digits =>
          have bounded := qualifierRank_le text
          have below : compare (2 * qualifierRank text) (2 * unknownRank + 1) = .lt :=
            Nat.compare_eq_lt.2 (by omega)
          simp only [Item.compare, Item.standing, List.compare_cons_cons, below]
          rfl
      | qualifier other => exact compareQualifiers_eq_compare_standing text other

theorem compareToAbsent_eq_compare_endStanding {item : Item} (set : item.isNull = false) :
    item.compareToAbsent = compare item.standing endStanding ∧
      item.compareToAbsent ≠ .eq := by
  cases item with
  | number digits =>
      cases digits with
      | nil => cases set
      | cons digit digits => exact ⟨rfl, by simp [Item.compareToAbsent]⟩
  | qualifier text =>
      have other : qualifierRank text ≠ releaseRank := by
        simpa [Item.isNull] using set
      simp only [Item.compareToAbsent, Item.standing, endStanding, List.compare_cons_cons]
      rcases Nat.lt_or_gt_of_ne other with below | above
      · have doubled : 2 * qualifierRank text < 2 * releaseRank - 1 := by
          omega
        rw [Nat.compare_eq_lt.2 below, Nat.compare_eq_lt.2 doubled]
        exact ⟨rfl, by decide⟩
      · have doubled : 2 * releaseRank - 1 < 2 * qualifierRank text := by
          omega
        rw [Nat.compare_eq_gt.2 above, Nat.compare_eq_gt.2 doubled]
        exact ⟨rfl, by decide⟩

theorem compareToAbsent_of_isNull {item : Item} (null : item.isNull = true) :
    item.compareToAbsent = .eq := by
  cases item with
  | number digits => simpa [Item.isNull, Item.compareToAbsent] using null
  | qualifier text => simpa [Item.isNull, Item.compareToAbsent] using null

theorem compare_endStanding_of_isNull {item : Item} (null : item.isNull = true) :
    compare item.standing endStanding = .gt := by
  cases item with
  | number digits => rfl
  | qualifier text =>
      have same : qualifierRank text = releaseRank := by
        simpa [Item.isNull] using null
      simp only [Item.standing, same]
      rfl

/-! ### Lists in normal form -/

theorem compareItems_nil_eq_compare_standings {item : Item} {rest : List Item}
    (normal : NormalItems (item :: rest)) :
    compareItems (item :: rest) [] = compare (standings (item :: rest)) (standings []) := by
  have ends : compare (standings (item :: rest)) (standings []) =
      (compare item.standing endStanding).then (compare (standings rest) []) := by
    simp only [standings, List.map_cons, List.cons_append, List.map_nil, List.nil_append,
      List.compare_cons_cons]
  rw [ends, compareItems]
  cases null : item.isNull with
  | true =>
      rw [compareToAbsent_of_isNull null, compare_endStanding_of_isNull null]
      exact normal.compareItems_nil_of_isNull null
  | false =>
      have set := compareToAbsent_eq_compare_endStanding null
      rw [set.1]
      cases decided : compare item.standing endStanding with
      | eq => exact absurd (set.1.trans decided) set.2
      | lt => rfl
      | gt => rfl

theorem compareItems_nil_swap (items : List Item) :
    compareItems [] items = (compareItems items []).swap := by
  induction items with
  | nil => simp [compareItems]
  | cons item rest ih =>
      rw [compareItems, compareItems, ih, Ordering.swap_then]

theorem compareItems_eq_compare_standings {left right : List Item}
    (normalLeft : NormalItems left) (normalRight : NormalItems right) :
    compareItems left right = compare (standings left) (standings right) := by
  induction left generalizing right with
  | nil =>
      cases right with
      | nil => simp [compareItems, standings]
      | cons b right =>
          rw [compareItems_nil_swap, compareItems_nil_eq_compare_standings normalRight]
          exact Std.OrientedOrd.eq_swap.symm
  | cons a left ih =>
      cases right with
      | nil => exact compareItems_nil_eq_compare_standings normalLeft
      | cons b right =>
          rw [compareItems, compare_item_eq_compare_standing,
            ih normalLeft.tail normalRight.tail]
          simp only [standings, List.map_cons, List.cons_append, List.compare_cons_cons]

end ArtifactCatalog.Version

namespace ArtifactCatalog

/-! ### Texts -/

def versionStandings (version : String) : List (List Nat) :=
  Version.standings (Version.read version.toList)

theorem maven_compare_eq_compare_versionStandings (a b : String) :
    VersionOrder.maven.compare a b = compare (versionStandings a) (versionStandings b) :=
  Version.compareItems_eq_compare_standings
    (Version.read_normalItems a.toList) (Version.read_normalItems b.toList)

instance : Std.TransCmp VersionOrder.maven.compare where
  eq_swap {a b} := by
    rw [maven_compare_eq_compare_versionStandings, maven_compare_eq_compare_versionStandings b]
    exact Std.OrientedOrd.eq_swap
  isLE_trans {a b c} := by
    simp only [maven_compare_eq_compare_versionStandings]
    exact Std.TransOrd.isLE_trans

theorem compareItems_not_transitive :
    ∃ zero pack : Version.Item, Version.compareItems [zero] [] = .eq ∧
      Version.compareItems [] [pack] = .lt ∧ Version.compareItems [zero] [pack] = .gt := by
  refine ⟨.number [], .qualifier ['s', 'p'], ?_, ?_, ?_⟩
  · simp [Version.compareItems, Version.Item.compareToAbsent]
  · simp only [Version.compareItems]
    decide
  · simp [Version.compareItems, Version.Item.compare]

/-- The order of releases is a total preorder of all texts, although the padded
comparison of item lists is not transitive: zero equals an absent item, which is
below a service pack, which is below zero. -/
theorem maven_compare_totalPreorder :
    (∀ a, VersionOrder.maven.compare a a = .eq) ∧
    (∀ a b, VersionOrder.maven.compare b a = (VersionOrder.maven.compare a b).swap) ∧
    (∀ a b c, VersionOrder.maven.compare a b ≠ .gt → VersionOrder.maven.compare b c ≠ .gt →
      VersionOrder.maven.compare a c ≠ .gt ∧
      (VersionOrder.maven.compare a b = .lt ∨ VersionOrder.maven.compare b c = .lt →
        VersionOrder.maven.compare a c = .lt)) ∧
    ∃ zero pack : Version.Item, Version.compareItems [zero] [] = .eq ∧
      Version.compareItems [] [pack] = .lt ∧ Version.compareItems [zero] [pack] = .gt := by
  refine ⟨fun a => Std.ReflCmp.compare_self, fun a b => Std.OrientedCmp.eq_swap, ?_,
    compareItems_not_transitive⟩
  intro a b c firstNotGt secondNotGt
  have first : (VersionOrder.maven.compare a b).isLE = true :=
    Ordering.isLE_iff_ne_gt.2 firstNotGt
  have second : (VersionOrder.maven.compare b c).isLE = true :=
    Ordering.isLE_iff_ne_gt.2 secondNotGt
  refine ⟨Ordering.isLE_iff_ne_gt.1 (Std.TransCmp.isLE_trans first second), ?_⟩
  intro strict
  rcases strict with below | below
  · exact Std.TransCmp.lt_of_lt_of_isLE below second
  · exact Std.TransCmp.lt_of_isLE_of_lt first below

theorem maven_compare_candidate_pack :
    VersionOrder.maven.compare "1.0.RC1" "1.0" = .lt ∧
    VersionOrder.maven.compare "1.0" "1.0-SP1" ≠ .gt ∧
    VersionOrder.maven.compare "1.0.RC1" "1.0-SP1" = .lt := by
  have first : VersionOrder.maven.compare "1.0.RC1" "1.0" = .lt := by
    rw [maven_compare_eq_compare_versionStandings]
    decide
  have second : VersionOrder.maven.compare "1.0" "1.0-SP1" ≠ .gt := by
    rw [maven_compare_eq_compare_versionStandings]
    decide
  have chained := maven_compare_totalPreorder.2.2.1 "1.0.RC1" "1.0" "1.0-SP1"
    (by rw [first]; decide) second
  exact ⟨first, second, chained.2 (Or.inl first)⟩

end ArtifactCatalog
