/-
What a suffix behind a dash does to a version of numbers. The zeros at the end of
the version are dropped before the suffix is read, so a suffix that starts with a
number can take the place of these zeros in a comparison.
-/

import ArtifactCatalog.Proofs.Version.DottedNumbers
import ArtifactCatalog.Proofs.Version.Preorder

namespace ArtifactCatalog.Version

/-! ### Common starts -/

theorem Item.compare_self (item : Item) : item.compare item = .eq := by
  cases item with
  | number digits => simp [Item.compare, compareDigits, Text.compareText_self]
  | qualifier text => simp [Item.compare, compareQualifiers, Text.compareText_self]

theorem compareItems_append_left (shared left right : List Item) :
    compareItems (shared ++ left) (shared ++ right) = compareItems left right := by
  induction shared with
  | nil => rfl
  | cons item rest ih =>
      rw [List.cons_append, List.cons_append, compareItems, item.compare_self, ih]
      rfl

theorem exists_first_difference {lower upper : List Nat} (sameLength : lower.length = upper.length)
    (below : lower < upper) :
    ∃ shared a lowerRest b upperRest, lower = shared ++ a :: lowerRest ∧
      upper = shared ++ b :: upperRest ∧ a < b := by
  induction lower generalizing upper with
  | nil =>
      rw [List.length_eq_zero_iff.1 sameLength.symm] at below
      exact absurd below (List.not_lt_nil [])
  | cons a lowerRest ih =>
      cases upper with
      | nil => cases sameLength
      | cons b upperRest =>
          rcases List.cons_lt_cons_iff.1 below with less | ⟨rfl, restBelow⟩
          · exact ⟨[], a, lowerRest, b, upperRest, rfl, rfl, less⟩
          · obtain ⟨shared, c, lowerEnd, d, upperEnd, rfl, rfl, less⟩ :=
              ih (Nat.succ.inj sameLength) restBelow
            exact ⟨a :: shared, c, lowerEnd, d, upperEnd, rfl, rfl, less⟩

/-! ### Numbers without the zeros at the end -/

theorem significant_isPrefix (numbers : List Nat) : significant numbers <+: numbers :=
  List.rdropWhile_prefix _ _

theorem significant_eq_self {numbers : List Nat} (noZeroAtEnd : numbers.getLast? ≠ some 0) :
    significant numbers = numbers := by
  apply List.rdropWhile_eq_self_iff.2
  intro nonempty isZero
  rw [List.getLast?_eq_some_getLast nonempty] at noZeroAtEnd
  exact noZeroAtEnd (congrArg some (beq_iff_eq.1 isZero))

theorem significant_append (front back : List Nat) :
    significant (front ++ back) =
      if significant back = [] then significant front else front ++ significant back := by
  unfold significant List.rdropWhile
  rw [List.reverse_append, List.dropWhile_append]
  by_cases nothing : back.reverse.dropWhile (· == 0) = []
  · simp [nothing]
  · simp [nothing]

theorem significant_cons_of_pos {n : Nat} (positive : 0 < n) (rest : List Nat) :
    ∃ kept, significant (n :: rest) = n :: kept := by
  have set : significant (n :: rest) ≠ [] := by
    intro nothing
    have zero := List.rdropWhile_eq_nil_iff.1 nothing n List.mem_cons_self
    rw [beq_iff_eq] at zero
    omega
  obtain ⟨kept, same, _isPrefix⟩ :=
    (List.prefix_cons_iff.1 (significant_isPrefix (n :: rest))).resolve_left set
  exact ⟨kept, same⟩

theorem significant_of_isPrefix {numbers others : List Nat}
    (starts : significant numbers <+: others) :
    significant others =
      significant numbers ++ significant (others.drop (significant numbers).length) := by
  obtain ⟨rest, rfl⟩ := starts
  rw [List.drop_left, significant_append]
  split
  · rename_i nothing
    rw [nothing, List.append_nil]
    exact List.rdropWhile_idempotent _ _
  · rfl

/-- A lower version with a number above zero at or behind the first difference stays
lower, whatever follows its numbers. -/
theorem compareItems_eq_lt_of_not_isPrefix {lower upper : List Nat}
    (sameLength : lower.length = upper.length) (below : lower < upper)
    (differs : ¬ significant lower <+: upper) (items : List Item) :
    compareItems ((significant lower).map Item.ofNat ++ items)
      ((significant upper).map Item.ofNat) = .lt := by
  obtain ⟨shared, a, lowerRest, b, upperRest, rfl, rfl, less⟩ :=
    exists_first_difference sameLength below
  obtain ⟨upperKept, upperSet⟩ := significant_cons_of_pos (Nat.zero_lt_of_lt less) upperRest
  by_cases nothing : significant (a :: lowerRest) = []
  · rw [significant_append, if_pos nothing] at differs
    exact absurd ((significant_isPrefix shared).trans (List.prefix_append _ _)) differs
  · obtain ⟨lowerKept, lowerSet, _isPrefix⟩ :=
      (List.prefix_cons_iff.1 (significant_isPrefix (a :: lowerRest))).resolve_left nothing
    rw [significant_append, significant_append, lowerSet, upperSet,
      if_neg (List.cons_ne_nil _ _), if_neg (List.cons_ne_nil _ _), List.map_append,
      List.map_append, List.append_assoc, compareItems_append_left, List.map_cons, List.map_cons,
      List.cons_append, compareItems, compare_ofNat, Nat.compare_eq_lt.2 less]
    rfl

theorem exists_significant_drop {lower upper : List Nat}
    (sameLength : lower.length = upper.length) (below : lower < upper)
    (starts : significant lower <+: upper) :
    ∃ n kept, significant (upper.drop (significant lower).length) = n :: kept := by
  apply List.exists_cons_of_ne_nil
  intro nothing
  have same := significant_of_isPrefix starts
  rw [nothing, List.append_nil] at same
  obtain ⟨shared, a, lowerRest, b, upperRest, rfl, rfl, less⟩ :=
    exists_first_difference sameLength below
  obtain ⟨upperKept, upperSet⟩ := significant_cons_of_pos (Nat.zero_lt_of_lt less) upperRest
  rw [significant_append, upperSet, if_neg (List.cons_ne_nil _ _)] at same
  have within := significant_isPrefix (shared ++ a :: lowerRest)
  rw [← same, List.prefix_append_right_inj, List.cons_prefix_cons] at within
  omega

/-! ### Suffixes -/

def DottedVersion.drop (v : DottedVersion) (count : Nat) : DottedVersion where
  runs := v.runs.drop count
  digits := fun run isRun => v.digits run (List.mem_of_mem_drop isRun)

theorem DottedVersion.numbers_drop (v : DottedVersion) (count : Nat) :
    (v.drop count).numbers = v.numbers.drop count := List.map_drop

theorem read_text_append_dash (v : DottedVersion) (suffix : String) :
    read (v.text ++ "-" ++ suffix).toList =
      (significant v.numbers).map Item.ofNat ++ read ("-" ++ suffix).toList := by
  rw [← v.read_text, String.toList_append, String.toList_append, String.toList_append,
    List.append_assoc]
  apply read_append_dash
  intro last isLast
  exact DottedVersion.isBlank_of_mem (List.mem_of_mem_getLast? isLast)

/-- Numbers that do not all vanish are above nothing, and above every qualifier. -/
theorem compareItems_numbers_eq_lt {items : List Item} {v : DottedVersion} {n : Nat}
    {kept : List Nat} (set : significant v.numbers = n :: kept)
    (noNumber : ∀ first ∈ items.head?, first.isNumber = false) :
    compareItems items (read v.text.toList) = .lt := by
  have numbers : read v.text.toList = Item.ofNat n :: kept.map Item.ofNat := by
    rw [v.read_text, set]
    rfl
  cases items with
  | nil =>
      have normal := read_normalItems v.text.toList
      rw [numbers] at normal ⊢
      rw [compareItems_nil_swap, compareItems]
      cases n with
      | zero =>
          have later := normal.compareItems_nil_of_isNull rfl
          rw [later]
          rfl
      | succ n =>
          rw [compareToAbsent_ofNat, Nat.compare_eq_gt.2 (Nat.succ_pos n)]
          rfl
  | cons first rest =>
      cases first with
      | number digits => cases noNumber _ rfl
      | qualifier text =>
          rw [numbers, compareItems]
          rfl

end ArtifactCatalog.Version

namespace ArtifactCatalog

open Version

theorem maven_compare_append_dash {lower upper : DottedVersion}
    (sameLength : lower.numbers.length = upper.numbers.length)
    (below : lower.numbers < upper.numbers) (suffix : String) :
    VersionOrder.maven.compare (lower.text ++ "-" ++ suffix) upper.text =
      if significant lower.numbers <+: upper.numbers then
        VersionOrder.maven.compare ("-" ++ suffix)
          (upper.drop (significant lower.numbers).length).text
      else .lt := by
  change compareItems (read (lower.text ++ "-" ++ suffix).toList) (read upper.text.toList) = _
  rw [read_text_append_dash, upper.read_text]
  split
  · rename_i starts
    rw [significant_of_isPrefix starts, List.map_append, compareItems_append_left,
      ← upper.numbers_drop, ← DottedVersion.read_text]
    rfl
  · rename_i differs
    exact compareItems_eq_lt_of_not_isPrefix sameLength below differs _

/-- A suffix behind a dash takes the place of the zeros at the end of a version. A
lower version stays lower with the suffix if its numbers without these zeros are not
a start of the upper version's numbers; else the suffix is compared with the rest of
these. The lower version stays lower in any case if it does not end in a zero, and if
the suffix does not start with a number. -/
theorem maven_compare_dashSuffix (lower upper : DottedVersion)
    (sameLength : lower.numbers.length = upper.numbers.length)
    (below : lower.numbers < upper.numbers) (suffix : String) :
    VersionOrder.maven.compare (lower.text ++ "-" ++ suffix) upper.text =
      (if significant lower.numbers <+: upper.numbers then
        VersionOrder.maven.compare ("-" ++ suffix)
          (upper.drop (significant lower.numbers).length).text
      else .lt) ∧
    (lower.numbers.getLast? ≠ some 0 →
      VersionOrder.maven.compare (lower.text ++ "-" ++ suffix) upper.text = .lt) ∧
    ((∀ first ∈ (read ("-" ++ suffix).toList).head?, first.isNumber = false) →
      VersionOrder.maven.compare (lower.text ++ "-" ++ suffix) upper.text = .lt) := by
  have law := maven_compare_append_dash sameLength below suffix
  refine ⟨law, ?_, ?_⟩
  · intro noZeroAtEnd
    rw [law]
    apply if_neg
    intro starts
    rw [significant_eq_self noZeroAtEnd] at starts
    rw [starts.eq_of_length sameLength] at below
    exact List.lt_irrefl _ below
  · intro noNumber
    rw [law]
    split
    · rename_i starts
      obtain ⟨n, kept, set⟩ := exists_significant_drop sameLength below starts
      rw [← upper.numbers_drop] at set
      exact compareItems_numbers_eq_lt set noNumber
    · rfl

def versionOneZero : DottedVersion where
  runs := [['1'], ['0']]
  digits := by decide

def versionOneOne : DottedVersion where
  runs := [['1'], ['1']]
  digits := by decide

theorem maven_compare_dashSuffix_oneZero :
    versionOneZero.numbers.length = versionOneOne.numbers.length ∧
    versionOneZero.numbers < versionOneOne.numbers ∧
    VersionOrder.maven.compare "1.0-2" "1.1" = VersionOrder.maven.compare "-2" "1" ∧
    VersionOrder.maven.compare "1.0-rc2" "1.1" = .lt := by
  have sameLength : versionOneZero.numbers.length = versionOneOne.numbers.length := by decide
  have below : versionOneZero.numbers < versionOneOne.numbers := by decide
  have build := (maven_compare_dashSuffix versionOneZero versionOneOne sameLength below "2").1
  have candidate :=
    (maven_compare_dashSuffix versionOneZero versionOneOne sameLength below "rc2").2.2 (by decide)
  rw [if_pos (by decide)] at build
  exact ⟨sameLength, below, build, candidate⟩

/-- A build number on a version that ends in a zero passes the next version. -/
theorem maven_compare_buildNumber :
    versionOneZero.numbers.length = versionOneOne.numbers.length ∧
    versionOneZero.numbers < versionOneOne.numbers ∧
    VersionOrder.maven.compare (versionOneZero.text ++ "-" ++ "2") versionOneOne.text = .gt := by
  refine ⟨by decide, by decide, ?_⟩
  rw [maven_compare_eq_compare_versionStandings]
  decide

end ArtifactCatalog
