/-
Hexadecimal digits and lower case. Below 128 lower-casing takes one character to one and
keeps what is a digit. Every other character has something in its lower-case form that is
no digit, so lower-casing never makes digits of a text that holds anything else.
-/

import ArtifactCatalog.Proofs.Text.Spelling
import ArtifactCatalog.Text.Hexadecimal
import Mathlib.Data.String.Basic

namespace ArtifactCatalog.Text

def hexDigits : List Char := "0123456789abcdefABCDEF".toList

def lowerHexDigits : List Char := "0123456789abcdef".toList

def asciiLowerString (text : String) : String := String.ofList (asciiLower text.toList)

/-! ### Digits -/

theorem isHexDigit_iff {c : Char} :
    isHexDigit c = true ↔ 0x30 ≤ c.toNat ∧ c.toNat ≤ 0x39 ∨ 0x61 ≤ c.toNat ∧ c.toNat ≤ 0x66 ∨
      0x41 ≤ c.toNat ∧ c.toNat ≤ 0x46 := by
  unfold isHexDigit
  simp only [Bool.or_eq_true, Bool.and_eq_true, decide_eq_true_eq, or_assoc]

theorem isHexDigit_iff_mem {c : Char} : isHexDigit c = true ↔ c ∈ hexDigits := by
  constructor
  · have listed : ∀ n < 0x80, isHexDigit (Char.ofNat n) = true → Char.ofNat n ∈ hexDigits := by
      decide +kernel
    intro digit
    have small : c.toNat < 0x80 := by
      have range := isHexDigit_iff.1 digit
      omega
    have member := listed c.toNat small
    rw [Char.ofNat_toNat] at member
    exact member digit
  · have digits : hexDigits.all isHexDigit = true := by decide
    exact List.all_eq_true.1 digits c

theorem toNat_lt_of_isHexDigit {c : Char} (digit : isHexDigit c = true) : c.toNat < 0x80 := by
  have range := isHexDigit_iff.1 digit
  omega

theorem isHexDigit_asciiLowerChar (c : Char) : isHexDigit (asciiLowerChar c) = isHexDigit c := by
  rw [Bool.eq_iff_iff, isHexDigit_iff, isHexDigit_iff, toNat_asciiLowerChar]
  unfold isAsciiUpper
  simp only [Bool.and_eq_true, decide_eq_true_eq]
  split <;> omega

theorem forall_isHexDigit_asciiLower {text : List Char} :
    (∀ c ∈ asciiLower text, isHexDigit c = true) ↔ ∀ c ∈ text, isHexDigit c = true := by
  unfold asciiLower
  rw [List.forall_mem_map]
  simp only [isHexDigit_asciiLowerChar]

theorem asciiLowerChar_asciiLowerChar (c : Char) :
    asciiLowerChar (asciiLowerChar c) = asciiLowerChar c := by
  have notUpper : isAsciiUpper (asciiLowerChar c) = false := by
    unfold isAsciiUpper
    rw [toNat_asciiLowerChar]
    unfold isAsciiUpper
    simp only [Bool.and_eq_true, Bool.and_eq_false_iff, decide_eq_true_eq, decide_eq_false_iff_not]
    split <;> omega
  rw [asciiLowerChar, notUpper]
  rfl

theorem length_asciiLower (text : List Char) : (asciiLower text).length = text.length :=
  List.length_map asciiLowerChar

theorem asciiLower_asciiLower (text : List Char) : asciiLower (asciiLower text) = asciiLower text := by
  unfold asciiLower
  rw [List.map_map]
  exact List.map_congr_left fun c _ => asciiLowerChar_asciiLowerChar c

theorem asciiLower_toList_asciiLowerString (text : String) :
    asciiLower (asciiLowerString text).toList = asciiLower text.toList := by
  unfold asciiLowerString
  rw [String.toList_ofList, asciiLower_asciiLower]

/-! ### Texts below 128 -/

theorem lowerAt_of_lt {c : Char} (small : c.toNat < 0x80) (before after : List Char) :
    lowerAt before c after = [asciiLowerChar c] := by
  have notSigma : c ≠ capitalSigma := by
    intro isSigma
    rw [isSigma] at small
    exact absurd small (by decide)
  unfold lowerAt lowerChar
  rw [if_neg notSigma, if_pos small]

theorem lowerAfter_of_lt {text : List Char} (small : ∀ c ∈ text, c.toNat < 0x80)
    (before : List Char) : lowerAfter before text = asciiLower text := by
  induction text generalizing before with
  | nil => rfl
  | cons c rest ih =>
      obtain ⟨first, later⟩ := List.forall_mem_cons.1 small
      rw [lowerAfter_cons, lowerAt_of_lt first, ih later]
      rfl

theorem utf8Len_of_lt {text : List Char} (small : ∀ c ∈ text, c.toNat < 0x80) :
    String.utf8Len text = text.length := by
  induction text with
  | nil => rfl
  | cons c rest ih =>
      obtain ⟨first, later⟩ := List.forall_mem_cons.1 small
      have one : c.utf8Size = 1 := by
        rw [Char.utf8Size_eq_one_iff, UInt32.le_iff_toNat_le]
        exact Nat.le_of_lt_succ first
      rw [String.utf8Len_cons, ih later, one, List.length_cons]

/-! ### Characters from 128 on -/

/-- No run of the table ends up at or below the last of the small letters that are digits. -/
theorem lt_of_mapByRuns {n m : Nat} (mapped : mapByRuns lowerRuns n = some m) : 0x66 < m := by
  have above : ∀ run ∈ lowerRuns, (0x66 : Int) < run.first + run.offset := by decide +kernel
  obtain ⟨run, found, rfl⟩ := Option.map_eq_some_iff.1 mapped
  have target := above run (List.mem_of_find?_eq_some found)
  have covered := List.find?_some found
  unfold CaseRun.covers at covered
  simp only [Bool.and_eq_true, decide_eq_true_eq] at covered
  omega

theorem isHexDigit_ofNat_of_lt {m : Nat} (large : 0x66 < m) : isHexDigit (Char.ofNat m) = false := by
  by_cases valid : m.isValidChar
  · have same : (Char.ofNat m).toNat = m := by
      rw [Char.ofNat, dif_pos valid]
      rfl
    rw [← Bool.not_eq_true, isHexDigit_iff, same]
    omega
  · rw [Char.ofNat, dif_neg valid]
    decide

theorem exists_not_isHexDigit_lowerAt {c : Char} (large : 0x80 ≤ c.toNat)
    (before after : List Char) : ∃ d ∈ lowerAt before c after, isHexDigit d = false := by
  unfold lowerAt
  by_cases sigma : c = capitalSigma
  · rw [if_pos sigma]
    refine ⟨_, List.mem_singleton_self _, ?_⟩
    split <;> decide
  · rw [if_neg sigma]
    unfold lowerChar
    rw [if_neg (Nat.not_lt.2 large)]
    by_cases dotted : c.toNat = 0x130
    · rw [if_pos dotted]
      exact ⟨_, List.mem_cons_self, by decide⟩
    · rw [if_neg dotted]
      cases mapped : mapByRuns lowerRuns c.toNat with
      | some m =>
          exact ⟨_, List.mem_singleton_self _, isHexDigit_ofNat_of_lt (lt_of_mapByRuns mapped)⟩
      | none =>
          refine ⟨c, List.mem_singleton_self _, ?_⟩
          rw [← Bool.not_eq_true]
          exact fun digit => absurd (toNat_lt_of_isHexDigit digit) (Nat.not_lt.2 large)

/-! ### Texts -/

theorem forall_isHexDigit_lowerAt {before after : List Char} {c : Char} :
    (∀ d ∈ lowerAt before c after, isHexDigit d = true) ↔ isHexDigit c = true := by
  by_cases small : c.toNat < 0x80
  · rw [lowerAt_of_lt small, List.forall_mem_singleton, isHexDigit_asciiLowerChar]
  · obtain ⟨d, member, noDigit⟩ :=
      exists_not_isHexDigit_lowerAt (Nat.not_lt.1 small) before after
    refine iff_of_false ?_ fun digit => small (toNat_lt_of_isHexDigit digit)
    intro digits
    rw [digits d member] at noDigit
    cases noDigit

theorem forall_isHexDigit_lowerAfter {before text : List Char} :
    (∀ d ∈ lowerAfter before text, isHexDigit d = true) ↔ ∀ c ∈ text, isHexDigit c = true := by
  induction text generalizing before with
  | nil => rfl
  | cons c rest ih =>
      rw [lowerAfter_cons, List.forall_mem_append, forall_isHexDigit_lowerAt, ih,
        List.forall_mem_cons]

theorem forall_isHexDigit_lower {text : List Char} :
    (∀ d ∈ lower text, isHexDigit d = true) ↔ ∀ c ∈ text, isHexDigit c = true :=
  forall_isHexDigit_lowerAfter

theorem lower_of_hexDigits {text : List Char} (digits : ∀ c ∈ text, isHexDigit c = true) :
    lower text = asciiLower text :=
  lowerAfter_of_lt (fun c member => toNat_lt_of_isHexDigit (digits c member)) []

end ArtifactCatalog.Text
