/-
Numbers in decimal digits: there is a digit, the first of more than one is not zero, and the
digits are read back as the number, behind a minus sign too.
-/

import ArtifactCatalog.Proofs.Version.DottedNumbers

namespace ArtifactCatalog.Number

theorem natDigits_ne_nil (n : Nat) : natDigits n ≠ [] := by
  simp [natDigits]

theorem isAsciiDigit_of_mem_natDigits {n : Nat} {c : Char} (member : c ∈ natDigits n) :
    Text.isAsciiDigit c = true := by
  have isDigit := Nat.isDigit_of_mem_toDigits (by decide) (by decide) member
  simpa [Char.isDigit, Text.isAsciiDigit, UInt32.le_iff_toNat_le] using isDigit

theorem ofDigits_natDigits (n : Nat) : ofDigits (natDigits n) = n :=
  Nat.ofDigitChars_ten_toDigits

theorem head?_natDigits_ne_zero {n : Nat} (positive : n ≠ 0) : (natDigits n).head? ≠ some '0' := by
  have digits : ∀ c ∈ natDigits n, Text.isAsciiDigit c = true :=
    fun _ => isAsciiDigit_of_mem_natDigits
  have kept := Version.dropZeros_eq_significantDigits digits
  rw [ofDigits_natDigits, Version.significantDigits, if_neg positive] at kept
  intro zero
  have stopped := List.head?_dropWhile_not (· == '0') (natDigits n)
  rw [kept, zero] at stopped
  cases stopped

theorem applySign_natAbs (n : Int) : applySign (decide (n < 0)) n.natAbs = n := by
  unfold applySign
  by_cases negative : n < 0
  · rw [if_pos (decide_eq_true negative)]
    omega
  · rw [if_neg (by rwa [decide_eq_true_iff])]
    omega

theorem isDigitRun_natDigits (n : Nat) : isDigitRun (natDigits n) = true :=
  Version.isDigitRun_iff.2 ⟨natDigits_ne_nil n, fun _ => isAsciiDigit_of_mem_natDigits⟩

theorem takeSign_of_isDigitRun {digits : List Char} (run : isDigitRun digits = true) :
    takeSign digits = (false, digits) := by
  obtain ⟨-, each⟩ := Version.isDigitRun_iff.1 run
  unfold takeSign
  split
  · exact absurd (each '+' List.mem_cons_self) (by decide)
  · exact absurd (each '-' List.mem_cons_self) (by decide)
  · rfl

theorem takeSign_intDigits (n : Int) :
    takeSign (intDigits n) = (decide (n < 0), natDigits n.natAbs) := by
  unfold intDigits
  by_cases negative : n < 0
  · rw [if_pos negative, decide_eq_true negative]
    rfl
  · rw [if_neg negative, decide_eq_false negative, takeSign_of_isDigitRun (isDigitRun_natDigits _)]

theorem parseInteger?_intDigits (n : Int) : parseInteger? (intDigits n) = some n := by
  unfold parseInteger?
  rw [takeSign_intDigits]
  dsimp only
  rw [if_pos (isDigitRun_natDigits _), ofDigits_natDigits, applySign_natAbs]

theorem parseInt64?_intDigits {n : Int} (fits : fitsInt64 n = true) :
    parseInt64? (intDigits n) = some n := by
  unfold parseInt64?
  rw [parseInteger?_intDigits, Option.filter_some, if_pos fits]

theorem toNat_le_of_mem_intDigits {n : Int} {c : Char} (member : c ∈ intDigits n) :
    c.toNat ≤ 0x39 := by
  have ofDigit {m : Nat} (digit : c ∈ natDigits m) : c.toNat ≤ 0x39 := by
    have isDigit := isAsciiDigit_of_mem_natDigits digit
    simp only [Text.isAsciiDigit, Bool.and_eq_true, decide_eq_true_eq] at isDigit
    exact isDigit.2
  unfold intDigits at member
  split at member
  · rcases List.mem_cons.1 member with rfl | digit
    · decide
    · exact ofDigit digit
  · exact ofDigit member

end ArtifactCatalog.Number
