/-
Runs of characters of one kind in a version text. A run becomes one item: digits a number,
characters that are neither digits nor marks a qualifier.
-/

import ArtifactCatalog.Number.Decimal
import ArtifactCatalog.Version.Reading

namespace ArtifactCatalog.Version

def isMark (c : Char) : Bool := c == '.' || c == '-' || c == '_'

def isWordChar (c : Char) : Bool := !isMark c && !Text.isAsciiDigit c

theorem isWordChar_iff {c : Char} :
    isWordChar c = true ↔ isMark c = false ∧ Text.isAsciiDigit c = false := by
  simp [isWordChar]

theorem isMark_eq_false_iff {c : Char} :
    isMark c = false ↔ c.toNat ≠ 46 ∧ c.toNat ≠ 45 ∧ c.toNat ≠ 95 := by
  simp only [isMark, Bool.or_eq_false_iff, beq_eq_false_iff_ne, ne_eq, ← Char.toNat_inj, and_assoc]
  rfl

theorem isMark_of_isAsciiDigit {c : Char} (isDigit : Text.isAsciiDigit c = true) :
    isMark c = false := by
  have range : 48 ≤ c.toNat ∧ c.toNat ≤ 57 := by
    simpa [Text.isAsciiDigit] using isDigit
  rw [isMark_eq_false_iff]
  omega

theorem isAsciiLetter_iff {c : Char} : Text.isAsciiLetter c = true ↔
    (65 ≤ c.toNat ∧ c.toNat ≤ 90) ∨ (97 ≤ c.toNat ∧ c.toNat ≤ 122) := by
  simp [Text.isAsciiLetter, Text.isAsciiUpper, Text.isAsciiLower]

theorem isWordChar_of_isAsciiLetter {c : Char} (isLetter : Text.isAsciiLetter c = true) :
    isWordChar c = true := by
  rw [isAsciiLetter_iff] at isLetter
  rw [isWordChar_iff, isMark_eq_false_iff]
  unfold Text.isAsciiDigit
  simp only [Bool.and_eq_false_iff, decide_eq_false_iff_not]
  omega

theorem isBlank_of_toNat {c : Char} (low : 32 < c.toNat) (high : c.toNat < 127) :
    Text.isBlank c = false := by
  unfold Text.isBlank
  simp only [Bool.or_eq_false_iff, Bool.and_eq_false_iff, decide_eq_false_iff_not,
    beq_eq_false_iff_ne]
  omega

theorem isBlank_of_isAsciiDigit {c : Char} (isDigit : Text.isAsciiDigit c = true) :
    Text.isBlank c = false := by
  have range : 48 ≤ c.toNat ∧ c.toNat ≤ 57 := by
    simpa [Text.isAsciiDigit] using isDigit
  exact isBlank_of_toNat (by omega) (by omega)

theorem isBlank_of_isAsciiLetter {c : Char} (isLetter : Text.isAsciiLetter c = true) :
    Text.isBlank c = false := by
  rw [isAsciiLetter_iff] at isLetter
  exact isBlank_of_toNat (by omega) (by omega)

theorem isDigitRun_iff {run : List Char} : Number.isDigitRun run = true ↔
    run ≠ [] ∧ ∀ c ∈ run, Text.isAsciiDigit c = true := by
  simp [Number.isDigitRun]

/-- Digits only, or neither digits nor marks. -/
structure IsRun (isDigits : Bool) (run : List Char) : Prop where
  nonempty : run ≠ []
  each : ∀ c ∈ run, isMark c = false ∧ Text.isAsciiDigit c = isDigits

theorem isRun_of_isDigitRun {run : List Char} (digits : Number.isDigitRun run = true) :
    IsRun true run := by
  obtain ⟨nonempty, each⟩ := isDigitRun_iff.1 digits
  refine ⟨nonempty, ?_⟩
  intro c member
  exact ⟨isMark_of_isAsciiDigit (each c member), each c member⟩

namespace Reader

variable {reader : Reader} {c : Char} {isDigits : Bool} {run : List Char}

theorem step_of_not_mark (reader : Reader) (noMark : isMark c = false) :
    reader.step c = reader.push c := by
  simp only [isMark, Bool.or_eq_false_iff, beq_eq_false_iff_ne] at noMark
  unfold Reader.step
  rw [if_neg noMark.1.1, if_neg (not_or.2 ⟨noMark.1.2, noMark.2⟩)]

def extend (reader : Reader) (c : Char) (isDigits : Bool) : Reader :=
  { reader with token := c :: reader.token, tokenIsDigits := isDigits }

theorem push_of_sameKind
    (sameKind : reader.token = [] ∨ reader.tokenIsDigits = Text.isAsciiDigit c) :
    reader.push c = reader.extend c (Text.isAsciiDigit c) := by
  have goesOn : (!reader.token.isEmpty && Text.isAsciiDigit c != reader.tokenIsDigits) = false := by
    rcases sameKind with absent | same
    · rw [absent]
      rfl
    · rw [same, bne_self_eq_false, Bool.and_false]
  unfold push
  dsimp only
  rw [goesOn]
  rfl

theorem push_of_otherKind (present : reader.token ≠ [])
    (otherKind : reader.tokenIsDigits ≠ Text.isAsciiDigit c) :
    reader.push c = reader.endSegment.extend c (Text.isAsciiDigit c) := by
  have ends : (!reader.token.isEmpty && Text.isAsciiDigit c != reader.tokenIsDigits) = true := by
    rw [List.isEmpty_eq_false_iff.2 present, bne_iff_ne.2 (Ne.symm otherKind)]
    rfl
  unfold push
  dsimp only
  rw [ends]
  rfl

theorem foldl_step_run (isRun : IsRun isDigits run)
    (sameKind : reader.token = [] ∨ reader.tokenIsDigits = isDigits) :
    run.foldl step reader =
      { reader with token := run.reverse ++ reader.token, tokenIsDigits := isDigits } := by
  obtain ⟨nonempty, each⟩ := isRun
  induction run generalizing reader with
  | nil => exact absurd rfl nonempty
  | cons c rest ih =>
      obtain ⟨noMark, kind⟩ := each c List.mem_cons_self
      rw [← kind] at sameKind
      rw [List.foldl_cons, step_of_not_mark reader noMark, push_of_sameKind sameKind, kind,
        List.reverse_cons, List.append_assoc, List.singleton_append]
      by_cases last : rest = []
      · rw [last]
        rfl
      · exact ih (.inr rfl) last fun d member => each d (List.mem_cons_of_mem c member)

theorem flush_foldl_run (isRun : IsRun isDigits run) (fresh : reader.token = []) :
    (run.foldl step reader).flush = { reader with
      items :=
        if isDigits then Item.ofDigits run :: reader.items
        else Item.ofQualifier run :: trimNulls 0 reader.items
      tokenIsDigits := isDigits } := by
  have present : ¬ run.isEmpty = true := by
    rw [List.isEmpty_iff]
    exact isRun.nonempty
  rw [foldl_step_run isRun (.inl fresh), fresh, List.append_nil]
  unfold flush
  dsimp only
  rw [List.reverse_reverse, List.isEmpty_reverse, if_neg present]

end Reader

end ArtifactCatalog.Version
