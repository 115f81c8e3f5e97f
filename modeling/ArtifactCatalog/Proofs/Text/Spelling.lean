/-
Spellings of a name: the letters A to Z in either case, and blanks around. All
spellings have one trimmed form in lower case, and it occurs in the lower-case
form of the name.
-/

import ArtifactCatalog.Proofs.Text.CaseContext
import ArtifactCatalog.Proofs.Text.Joining
import Mathlib.Data.List.Forall2

namespace ArtifactCatalog.Text

/-! ### Letters in either case -/

/-- A letter from A to Z, and the same letter in lower case. -/
def IsCasePair (upper lower : Char) : Prop :=
  isAsciiUpper upper = true ∧ lower.toNat = upper.toNat + 32

def SameButForCase : List Char → List Char → Prop :=
  List.Forall₂ fun c d => c = d ∨ IsCasePair c d ∨ IsCasePair d c

theorem toNat_asciiLowerChar (c : Char) :
    (asciiLowerChar c).toNat = if isAsciiUpper c then c.toNat + 32 else c.toNat := by
  unfold asciiLowerChar
  split
  · rename_i upper
    have range : 65 ≤ c.toNat ∧ c.toNat ≤ 90 := by
      simpa [isAsciiUpper] using upper
    rw [Char.ofNat, dif_pos (Or.inl (by omega))]
    rfl
  · rfl

theorem asciiLower_eq_self {text : List Char} (noCapital : ∀ c ∈ text, isAsciiUpper c = false) :
    asciiLower text = text := by
  have kept : ∀ c ∈ text, asciiLowerChar c = c := by
    intro c member
    exact if_neg (ne_true_of_eq_false (noCapital c member))
  exact (List.map_congr_left kept).trans (List.map_id' text)

theorem asciiLowerChar_eq_iff {c d : Char} :
    asciiLowerChar c = asciiLowerChar d ↔ c = d ∨ IsCasePair c d ∨ IsCasePair d c := by
  rw [← Char.toNat_inj, ← Char.toNat_inj, toNat_asciiLowerChar, toNat_asciiLowerChar]
  unfold IsCasePair isAsciiUpper
  simp only [Bool.and_eq_true, decide_eq_true_eq]
  split <;> split <;> omega

theorem sameIgnoringAsciiCase_iff {text other : List Char} :
    sameIgnoringAsciiCase text other = true ↔ SameButForCase text other := by
  unfold sameIgnoringAsciiCase asciiLower SameButForCase
  rw [beq_iff_eq]
  induction text generalizing other with
  | nil =>
      rw [List.map_nil, List.forall₂_nil_left_iff, eq_comm, List.map_eq_nil_iff]
  | cons c rest ih =>
      cases other with
      | nil => simp
      | cons d behind =>
          rw [List.map_cons, List.map_cons, List.cons.injEq, List.forall₂_cons,
            asciiLowerChar_eq_iff, ih]

structure TreatedAlike (c d : Char) : Prop where
  lowerChar : lowerChar c = lowerChar d
  cased : isCased c = isCased d
  ignorable : isCaseIgnorable c = isCaseIgnorable d
  blank : isBlank c = isBlank d
  sigma : c = capitalSigma ↔ d = capitalSigma

theorem treatedAlike_asciiLowerChar (c : Char) : TreatedAlike (asciiLowerChar c) c := by
  unfold asciiLowerChar
  cases upper : isAsciiUpper c with
  | false => exact ⟨rfl, rfl, rfl, rfl, Iff.rfl⟩
  | true =>
      have letters : ∀ i < 26, lowerChar (Char.ofNat (i + 97)) = lowerChar (Char.ofNat (i + 65)) ∧
          isCased (Char.ofNat (i + 97)) = isCased (Char.ofNat (i + 65)) ∧
          isCaseIgnorable (Char.ofNat (i + 97)) = isCaseIgnorable (Char.ofNat (i + 65)) ∧
          isBlank (Char.ofNat (i + 97)) = isBlank (Char.ofNat (i + 65)) ∧
          (Char.ofNat (i + 97) = capitalSigma ↔ Char.ofNat (i + 65) = capitalSigma) := by
        decide +kernel
      have range : 65 ≤ c.toNat ∧ c.toNat ≤ 90 := by
        simpa [isAsciiUpper] using upper
      have letter := letters (c.toNat - 65) (by omega)
      have small : c.toNat - 65 + 97 = c.toNat + 32 := by omega
      rw [Nat.sub_add_cancel range.1, small, Char.ofNat_toNat] at letter
      exact ⟨letter.1, letter.2.1, letter.2.2.1, letter.2.2.2.1, letter.2.2.2.2⟩

theorem startsCased_asciiLower (text : List Char) :
    startsCased (asciiLower text) = startsCased text := by
  induction text with
  | nil => rfl
  | cons c rest ih =>
      have alike := treatedAlike_asciiLowerChar c
      unfold startsCased asciiLower at ih ⊢
      rw [List.map_cons, List.dropWhile_cons, List.dropWhile_cons, alike.ignorable]
      cases isCaseIgnorable c with
      | true => exact ih
      | false => exact alike.cased

theorem lowerAt_asciiLower (before : List Char) (c : Char) (after : List Char) :
    lowerAt (asciiLower before) (asciiLowerChar c) (asciiLower after) =
      lowerAt before c after := by
  have alike := treatedAlike_asciiLowerChar c
  unfold lowerAt endsWord
  simp only [alike.sigma, alike.lowerChar, startsCased_asciiLower]

theorem lowerAfter_asciiLower (before text : List Char) :
    lowerAfter (asciiLower before) (asciiLower text) = lowerAfter before text := by
  induction text generalizing before with
  | nil => rfl
  | cons c rest ih =>
      rw [lowerAfter_cons, ← ih (c :: before), ← lowerAt_asciiLower]
      exact lowerAfter_cons _ _ _

theorem lower_asciiLower (text : List Char) : lower (asciiLower text) = lower text :=
  lowerAfter_asciiLower [] text

theorem dropWhile_isBlank_asciiLower (text : List Char) :
    (asciiLower text).dropWhile isBlank = asciiLower (text.dropWhile isBlank) := by
  unfold asciiLower
  rw [List.dropWhile_map]
  congr 2
  funext c
  exact (treatedAlike_asciiLowerChar c).blank

theorem trim_asciiLower (text : List Char) : trim (asciiLower text) = asciiLower (trim text) := by
  have reversed : ∀ other, (asciiLower other).reverse = asciiLower other.reverse := by
    intro other
    exact List.map_reverse.symm
  unfold trim stripWhile dropEndWhile
  rw [dropWhile_isBlank_asciiLower, reversed, dropWhile_isBlank_asciiLower, reversed]

/-! ### Blanks around -/

theorem trim_append_blanks {front back : List Char} (blankFront : allBlank front = true)
    (blankBack : allBlank back = true) (text : List Char) :
    trim (front ++ text ++ back) = trim text :=
  stripWhile_around_text (List.all_eq_true.1 blankFront) (List.all_eq_true.1 blankBack) text

theorem exists_blanks_trim (text : List Char) :
    ∃ front back, text = front ++ trim text ++ back ∧ allBlank front = true ∧
      allBlank back = true := by
  obtain ⟨front, back, whole, blankFront, blankBack⟩ := exists_around_stripWhile isBlank text
  exact ⟨front, back, whole, List.all_eq_true.2 blankFront, List.all_eq_true.2 blankBack⟩

theorem infix_lower_trim (text : List Char) : lower (trim text) <:+: lower text := by
  obtain ⟨front, back, whole, blankFront, blankBack⟩ := exists_blanks_trim text
  have inside := (sigmasAgree_of_allBlank blankFront blankBack (trim text)).infix_lower
  rw [← whole] at inside
  exact inside

/-! ### Spellings -/

/-- A text is a name with the letters A to Z in either case and blanks around. -/
def Spells (spelling name : List Char) : Prop :=
  ∃ front body back, spelling = front ++ body ++ back ∧ allBlank front = true ∧
    allBlank back = true ∧ SameButForCase body name

variable {spelling name : List Char}

theorem Spells.asciiLower_trim (spells : Spells spelling name) :
    asciiLower (trim spelling) = asciiLower (trim name) := by
  obtain ⟨front, body, back, rfl, blankFront, blankBack, same⟩ := spells
  rw [trim_append_blanks blankFront blankBack, ← trim_asciiLower, ← trim_asciiLower,
    beq_iff_eq.1 (sameIgnoringAsciiCase_iff.2 same)]

theorem Spells.lower_trim (spells : Spells spelling name) :
    lower (trim spelling) = lower (trim name) := by
  rw [← lower_asciiLower, spells.asciiLower_trim, lower_asciiLower]

theorem Spells.infix_lower (spells : Spells spelling name) :
    lower (trim spelling) <:+: lower name := by
  rw [spells.lower_trim]
  exact infix_lower_trim name

end ArtifactCatalog.Text
