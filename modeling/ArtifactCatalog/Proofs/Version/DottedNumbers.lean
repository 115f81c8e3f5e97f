/-
Versions of numbers alone. Such a version is read as its numbers without the
zeros at the end, and numbers compare by value, whatever the length of their
digits and their leading zeros.
-/

import ArtifactCatalog.Number.Text
import ArtifactCatalog.Proofs.Version.Runs
import ArtifactCatalog.Proofs.Version.Segments
import ArtifactCatalog.Version.Order
import Mathlib.Data.List.DropRight

namespace ArtifactCatalog.Version

/-! ### Numbers as items -/

/-- The decimal digits of a number, none of zero. -/
def significantDigits (n : Nat) : List Char := if n = 0 then [] else Number.natDigits n

def Item.ofNat (n : Nat) : Item := .number (significantDigits n)

theorem significantDigits_of_pos {n : Nat} (positive : 0 < n) :
    significantDigits n = significantDigits (n / 10) ++ [Nat.digitChar (n % 10)] := by
  unfold significantDigits Number.natDigits
  rw [if_neg (Nat.ne_of_gt positive)]
  by_cases small : n < 10
  · have noTens : n / 10 = 0 := Nat.div_eq_of_lt small
    rw [Nat.toDigits_of_lt_base small, Nat.mod_eq_of_lt small, if_pos noTens]
    rfl
  · have tens : n / 10 ≠ 0 := by omega
    rw [if_neg tens, Nat.toDigits_of_base_le (by decide) (Nat.le_of_not_lt small)]

theorem isEmpty_significantDigits (n : Nat) : (significantDigits n).isEmpty = (n == 0) := by
  cases n with
  | zero => rfl
  | succ n =>
      rw [significantDigits_of_pos (Nat.succ_pos n)]
      simp

theorem isNull_ofNat (n : Nat) : (Item.ofNat n).isNull = (n == 0) := isEmpty_significantDigits n

theorem significantDigits_append {n d : Nat} (small : d < 10) (positive : 0 < 10 * n + d) :
    significantDigits (10 * n + d) = significantDigits n ++ [Nat.digitChar d] := by
  have tens : (10 * n + d) / 10 = n := by omega
  have ones : (10 * n + d) % 10 = d := by omega
  rw [significantDigits_of_pos positive, tens, ones]

theorem digitChar_digitValue {c : Char} (isDigit : Text.isAsciiDigit c = true) :
    Number.digitValue c < 10 ∧ Nat.digitChar (Number.digitValue c) = c := by
  have range : 48 ≤ c.toNat ∧ c.toNat ≤ 57 := by
    simpa [Text.isAsciiDigit] using isDigit
  have small : Number.digitValue c < 10 := by
    unfold Number.digitValue
    omega
  refine ⟨small, Char.toNat_inj.1 ?_⟩
  rw [Nat.toNat_digitChar_of_lt_ten small]
  unfold Number.digitValue
  omega

theorem ofDigits_append_singleton (digits : List Char) (c : Char) :
    Number.ofDigits (digits ++ [c]) = 10 * Number.ofDigits digits + Number.digitValue c := by
  unfold Number.ofDigits
  rw [List.foldl_append]
  rfl

theorem dropZeros_eq_significantDigits {run : List Char}
    (digits : ∀ c ∈ run, Text.isAsciiDigit c = true) :
    run.dropWhile (· == '0') = significantDigits (Number.ofDigits run) := by
  induction run using List.reverseRecOn with
  | nil => rfl
  | append_singleton front c ih =>
      have before := ih fun d isDigit => digits d (List.mem_append_left [c] isDigit)
      obtain ⟨small, rebuilt⟩ := digitChar_digitValue
        (digits c (List.mem_append_right front List.mem_cons_self))
      rw [ofDigits_append_singleton, List.dropWhile_append, before, isEmpty_significantDigits]
      generalize Number.ofDigits front = value
      generalize Number.digitValue c = digit at small rebuilt
      subst rebuilt
      rcases Nat.eq_zero_or_pos (10 * value + digit) with zero | positive
      · obtain ⟨rfl, rfl⟩ : value = 0 ∧ digit = 0 := by omega
        rfl
      · rw [significantDigits_append small positive]
        cases value with
        | zero =>
            have notZero : (Nat.digitChar digit == '0') = false := by
              have all : ∀ d < 10, 0 < 10 * 0 + d → (Nat.digitChar d == '0') = false := by decide
              exact all digit small positive
            rw [List.dropWhile_cons_of_neg (by rw [notZero]; exact Bool.false_ne_true)]
            rfl
        | succ value => rfl

theorem ofDigits_eq_ofNat {run : List Char} (digits : Number.isDigitRun run = true) :
    Item.ofDigits run = Item.ofNat (Number.ofDigits run) :=
  congrArg Item.number (dropZeros_eq_significantDigits (isDigitRun_iff.1 digits).2)

/-! ### Numbers compare by value -/

theorem compareText_append_singleton {front other : List Char}
    (sameLength : front.length = other.length) (c d : Char) :
    Text.compareText (front ++ [c]) (other ++ [d]) =
      (Text.compareText front other).then (compare c.toNat d.toNat) := by
  induction front generalizing other with
  | nil =>
      rw [List.length_nil] at sameLength
      rw [List.length_eq_zero_iff.1 sameLength.symm]
      simp [Text.compareText]
  | cons first front ih =>
      cases other with
      | nil => cases sameLength
      | cons otherFirst other =>
          rw [List.cons_append, List.cons_append, Text.compareText, Text.compareText,
            ih (Nat.succ.inj sameLength), Ordering.then_assoc]

theorem compareDigits_append_singleton (front other : List Char) (c d : Char) :
    compareDigits (front ++ [c]) (other ++ [d]) =
      (compareDigits front other).then (compare c.toNat d.toNat) := by
  unfold compareDigits
  rw [List.length_append, List.length_append, List.length_singleton, List.length_singleton]
  rcases Nat.lt_trichotomy front.length other.length with below | same | above
  · rw [Nat.compare_eq_lt.2 below, Nat.compare_eq_lt.2 (Nat.succ_lt_succ below)]
    rfl
  · rw [compareText_append_singleton same, same, Nat.compare_eq_eq.2 rfl, Nat.compare_eq_eq.2 rfl]
    rfl
  · rw [Nat.compare_eq_gt.2 above, Nat.compare_eq_gt.2 (Nat.succ_lt_succ above)]
    rfl

theorem compare_tens_then_ones (m n : Nat) :
    (compare (m / 10) (n / 10)).then
      (compare (Nat.digitChar (m % 10)).toNat (Nat.digitChar (n % 10)).toNat) = compare m n := by
  rw [Nat.toNat_digitChar_of_lt_ten (Nat.mod_lt m (by decide)),
    Nat.toNat_digitChar_of_lt_ten (Nat.mod_lt n (by decide))]
  rcases Nat.lt_trichotomy (m / 10) (n / 10) with below | same | above
  · rw [Nat.compare_eq_lt.2 below, Nat.compare_eq_lt.2 (show m < n by omega)]
    rfl
  · rw [Nat.compare_eq_eq.2 same, Ordering.then]
    rcases Nat.lt_trichotomy m n with below | equal | above
    · rw [Nat.compare_eq_lt.2 below, Nat.compare_eq_lt.2 (by omega)]
    · rw [equal, Nat.compare_eq_eq.2 rfl, Nat.compare_eq_eq.2 rfl]
    · rw [Nat.compare_eq_gt.2 above, Nat.compare_eq_gt.2 (by omega)]
  · rw [Nat.compare_eq_gt.2 above, Nat.compare_eq_gt.2 (show n < m by omega)]
    rfl

theorem compareDigits_nil_append (front : List Char) (c : Char) :
    compareDigits [] (front ++ [c]) = .lt := by
  have shorter : ([] : List Char).length < (front ++ [c]).length := by simp
  unfold compareDigits
  rw [Nat.compare_eq_lt.2 shorter]
  rfl

theorem compareDigits_append_nil (front : List Char) (c : Char) :
    compareDigits (front ++ [c]) [] = .gt := by
  have longer : ([] : List Char).length < (front ++ [c]).length := by simp
  unfold compareDigits
  rw [Nat.compare_eq_gt.2 longer]
  rfl

theorem compareDigits_significantDigits (m n : Nat) :
    compareDigits (significantDigits m) (significantDigits n) = compare m n := by
  induction m using Nat.strong_induction_on generalizing n with
  | _ m ih =>
      rcases Nat.eq_zero_or_pos m with rfl | positive
      · rcases Nat.eq_zero_or_pos n with rfl | positiveToo
        · rfl
        · rw [significantDigits_of_pos positiveToo, Nat.compare_eq_lt.2 positiveToo]
          exact compareDigits_nil_append _ _
      · rcases Nat.eq_zero_or_pos n with rfl | positiveToo
        · rw [significantDigits_of_pos positive, Nat.compare_eq_gt.2 positive]
          exact compareDigits_append_nil _ _
        · rw [significantDigits_of_pos positive, significantDigits_of_pos positiveToo,
            compareDigits_append_singleton, ih (m / 10) (Nat.div_lt_self positive (by decide)),
            compare_tens_then_ones]

theorem compare_ofNat (m n : Nat) : (Item.ofNat m).compare (Item.ofNat n) = compare m n :=
  compareDigits_significantDigits m n

theorem compareToAbsent_ofNat (n : Nat) : (Item.ofNat n).compareToAbsent = compare n 0 := by
  unfold Item.ofNat Item.compareToAbsent
  dsimp only
  rw [isEmpty_significantDigits]
  cases n with
  | zero => rfl
  | succ n => rw [Nat.compare_eq_gt.2 (Nat.succ_pos n), if_neg (by simp)]

/-! ### Reading -/

/-- A version of numbers alone, written as runs of digits with dots between them. -/
structure DottedVersion where
  runs : List (List Char)
  digits : ∀ run ∈ runs, Number.isDigitRun run = true

namespace DottedVersion

def text (v : DottedVersion) : String := String.ofList (['.'].intercalate v.runs)

def numbers (v : DottedVersion) : List Nat := v.runs.map Number.ofDigits

end DottedVersion

def significant (numbers : List Nat) : List Nat := numbers.rdropWhile (· == 0)

theorem items_flush_foldl_runs {reader : Reader} {runs : List (List Char)}
    (digits : ∀ run ∈ runs, Number.isDigitRun run = true) (fresh : reader.token = []) :
    ((['.'].intercalate runs).foldl Reader.step reader).flush.items =
      (runs.map Item.ofDigits).reverse ++ reader.items := by
  induction runs generalizing reader with
  | nil =>
      rw [List.intercalate_nil, List.foldl_nil]
      unfold Reader.flush
      rw [fresh]
      rfl
  | cons run rest ih =>
      have first := Reader.flush_foldl_run
        (isRun_of_isDigitRun (digits run List.mem_cons_self)) fresh
      by_cases last : rest = []
      · subst last
        rw [List.intercalate_singleton, first]
        rfl
      · rw [List.intercalate_cons_of_ne_nil last, List.foldl_append, List.foldl_append]
        change ((['.'].intercalate rest).foldl Reader.step
          (run.foldl Reader.step reader).flush).flush.items = _
        rw [first]
        refine (ih (fun other isRun => digits other (List.mem_cons_of_mem run isRun)) ?_).trans ?_
        · exact fresh
        · simp

theorem DottedVersion.isBlank_of_mem {v : DottedVersion} {c : Char} (member : c ∈ v.text.toList) :
    Text.isBlank c = false := by
  unfold DottedVersion.text at member
  rw [String.toList_ofList] at member
  rcases Text.eq_or_mem_of_mem_intercalate member with rfl | ⟨run, isRun, within⟩
  · decide
  · exact isBlank_of_isAsciiDigit ((isDigitRun_iff.1 (v.digits run isRun)).2 c within)

theorem DottedVersion.trim_text (v : DottedVersion) :
    Text.trim v.text.toList = v.text.toList :=
  Text.stripWhile_eq_self (fun _ isFirst => isBlank_of_mem (List.mem_of_mem_head? isFirst))
    (fun _ isLast => isBlank_of_mem (List.mem_of_mem_getLast? isLast))

theorem DottedVersion.map_ofDigits_runs (v : DottedVersion) :
    v.runs.map Item.ofDigits = v.numbers.map Item.ofNat := by
  unfold DottedVersion.numbers
  rw [List.map_map]
  apply List.map_congr_left
  intro run isRun
  exact ofDigits_eq_ofNat (v.digits run isRun)

theorem DottedVersion.read_text (v : DottedVersion) :
    read v.text.toList = (significant v.numbers).map Item.ofNat := by
  have items : ((['.'].intercalate v.runs).foldl Reader.step {}).flush.items =
      (v.runs.map Item.ofDigits).reverse ++ [] := items_flush_foldl_runs v.digits rfl
  have nulls : Item.isNull ∘ Item.ofNat = fun n => n == 0 := funext isNull_ofNat
  unfold read Reader.finish
  rw [v.trim_text]
  unfold DottedVersion.text
  rw [String.toList_ofList, items, List.append_nil, trimNulls_zero, v.map_ofDigits_runs,
    ← List.map_reverse, List.dropWhile_map, ← List.map_reverse, nulls]
  rfl

end ArtifactCatalog.Version
