/-
Lower case in context. Only a capital sigma looks at its surroundings, so a part
of a text has the lower-case form that it has alone unless one of its capital
sigmas ends a word in the one place and not in the other. Blanks end words, and
the case of the letters A to Z makes no difference.
-/

import ArtifactCatalog.Text.Blank
import ArtifactCatalog.Text.Case

namespace ArtifactCatalog.Text

/-! ### One character -/

/-- Whether a word ends between two texts; the nearest character of `before` comes first. -/
def endsWord (before after : List Char) : Bool := startsCased before && !startsCased after

def lowerAt (before : List Char) (c : Char) (after : List Char) : List Char :=
  if c = capitalSigma then [if endsWord before after then finalSigma else smallSigma]
  else lowerChar c

theorem lowerAfter_cons (before : List Char) (c : Char) (rest : List Char) :
    lowerAfter before (c :: rest) = lowerAt before c rest ++ lowerAfter (c :: before) rest := by
  unfold lowerAt
  by_cases sigma : c = capitalSigma
  · rw [lowerAfter, if_pos sigma, if_pos sigma]
    rfl
  · rw [lowerAfter, if_neg sigma, if_neg sigma]

theorem length_lowerAt (before : List Char) (c : Char) (after : List Char) :
    (lowerAt before c after).length = (lowerAt [] c []).length := by
  unfold lowerAt
  split <;> rfl

theorem lowerAt_inj {before after other behind : List Char} {c : Char} :
    lowerAt before c after = lowerAt other c behind ↔
      (c = capitalSigma → endsWord before after = endsWord other behind) := by
  unfold lowerAt
  by_cases sigma : c = capitalSigma
  · rw [if_pos sigma, if_pos sigma, forall_prop_of_true sigma]
    cases endsWord before after <;> cases endsWord other behind <;> decide
  · simp [sigma]

/-! ### Parts of a text -/

/-- The lower-case form of a text that stands between two others. -/
def lowerWithin (before : List Char) : List Char → List Char → List Char
  | [], _ => []
  | c :: rest, after => lowerAt before c (rest ++ after) ++ lowerWithin (c :: before) rest after

theorem lowerAfter_append (before text after : List Char) :
    lowerAfter before (text ++ after) =
      lowerWithin before text after ++ lowerAfter (text.reverse ++ before) after := by
  induction text generalizing before with
  | nil => rfl
  | cons c rest ih =>
      rw [List.cons_append, lowerAfter_cons, ih, lowerWithin, List.reverse_cons,
        List.append_assoc, List.append_assoc]
      rfl

theorem lower_append_append (front text back : List Char) :
    lower (front ++ text ++ back) =
      lowerWithin [] front (text ++ back) ++ lowerWithin front.reverse text back ++
        lowerAfter (text.reverse ++ front.reverse) back := by
  unfold lower
  rw [List.append_assoc, lowerAfter_append, lowerAfter_append, List.append_nil,
    List.append_assoc]

/-- Each capital sigma of a text ends a word within the surroundings exactly if it
does so in the text alone. -/
def SigmasAgree (front text back : List Char) : Prop :=
  ∀ left right, text = left ++ capitalSigma :: right →
    endsWord (left.reverse ++ front.reverse) (right ++ back) = endsWord left.reverse right

private theorem forall_split_cons {c mark : Char} {rest : List Char}
    {P : List Char → List Char → Prop} :
    (∀ left right, c :: rest = left ++ mark :: right → P left right) ↔
      (c = mark → P [] rest) ∧
        ∀ left right, rest = left ++ mark :: right → P (c :: left) right := by
  constructor
  · intro all
    refine ⟨?_, fun left right split => all (c :: left) right (congrArg (c :: ·) split)⟩
    intro isMark
    exact all [] rest (congrArg (· :: rest) isMark)
  · intro parts left right split
    cases left with
    | nil =>
        cases split
        exact parts.1 rfl
    | cons first left =>
        cases split
        exact parts.2 left right rfl

/-- What was read of a text itself is `known`; `before` are its surroundings. -/
theorem lowerWithin_eq_lowerAfter_iff (known before text after : List Char) :
    lowerWithin (known ++ before) text after = lowerAfter known text ↔
      ∀ left right, text = left ++ capitalSigma :: right →
        endsWord (left.reverse ++ (known ++ before)) (right ++ after) =
          endsWord (left.reverse ++ known) right := by
  induction text generalizing known with
  | nil => simp [lowerWithin, lowerAfter]
  | cons c rest ih =>
      have sameLength : (lowerAt (known ++ before) c (rest ++ after)).length =
          (lowerAt known c rest).length := by
        rw [length_lowerAt, length_lowerAt known]
      have parted : ∀ front back, lowerAt (known ++ before) c (rest ++ after) ++ front =
          lowerAt known c rest ++ back ↔
            lowerAt (known ++ before) c (rest ++ after) = lowerAt known c rest ∧
              front = back := by
        intro front back
        constructor
        · intro same
          exact List.append_inj same sameLength
        · rintro ⟨first, second⟩
          rw [first, second]
      rw [lowerWithin, lowerAfter_cons, parted, lowerAt_inj, forall_split_cons]
      refine and_congr Iff.rfl ?_
      simpa using ih (c :: known)

/-- A part of a text has the lower-case form that it has alone exactly if its
capital sigmas agree. -/
theorem lowerWithin_eq_lower_iff (front text back : List Char) :
    lowerWithin front.reverse text back = lower text ↔ SigmasAgree front text back := by
  have general := lowerWithin_eq_lowerAfter_iff [] front.reverse text back
  simp only [List.nil_append, List.append_nil] at general
  exact general

instance (front text back : List Char) : Decidable (SigmasAgree front text back) :=
  decidable_of_iff _ (lowerWithin_eq_lower_iff front text back)

theorem sigmasAgree_of_not_mem {text : List Char} (plain : capitalSigma ∉ text)
    (front back : List Char) : SigmasAgree front text back := by
  intro left right split
  apply absurd _ plain
  rw [split]
  exact List.mem_append_right left List.mem_cons_self

theorem SigmasAgree.infix_lower {front text back : List Char}
    (agree : SigmasAgree front text back) : lower text <:+: lower (front ++ text ++ back) := by
  rw [lower_append_append, (lowerWithin_eq_lower_iff front text back).2 agree]
  exact ⟨_, _, rfl⟩

/-! ### Blanks around a text -/

def blankCodes : List Nat :=
  [0x9, 0xA, 0xB, 0xC, 0xD, 0x20, 0x85, 0xA0, 0x1680, 0x2000, 0x2001, 0x2002, 0x2003, 0x2004,
    0x2005, 0x2006, 0x2007, 0x2008, 0x2009, 0x200A, 0x2028, 0x2029, 0x202F, 0x205F, 0x3000]

theorem toNat_mem_blankCodes {c : Char} (blank : isBlank c = true) : c.toNat ∈ blankCodes := by
  simp only [isBlank, Bool.or_eq_true, Bool.and_eq_true, decide_eq_true_eq, beq_iff_eq] at blank
  simp only [blankCodes, List.mem_cons, List.not_mem_nil, or_false]
  omega

/-- A blank is no letter, and a word does not reach across it. -/
theorem not_cased_of_isBlank {c : Char} (blank : isBlank c = true) :
    isCased c = false ∧ isCaseIgnorable c = false := by
  have table : ∀ n ∈ blankCodes,
      inIntervals casedIntervals n = false ∧ inIntervals caseIgnorableIntervals n = false := by
    decide +kernel
  exact table c.toNat (toNat_mem_blankCodes blank)

theorem startsCased_append_blanks {blanks : List Char} (blank : allBlank blanks = true)
    (text : List Char) : startsCased (text ++ blanks) = startsCased text := by
  induction text with
  | nil =>
      cases blanks with
      | nil => rfl
      | cons c rest =>
          rw [allBlank, List.all_cons, Bool.and_eq_true] at blank
          obtain ⟨notCased, notIgnored⟩ := not_cased_of_isBlank blank.1
          simp [startsCased, notCased, notIgnored]
  | cons c rest ih =>
      unfold startsCased at ih ⊢
      cases ignored : isCaseIgnorable c with
      | true => simpa [ignored] using ih
      | false => simp [ignored]

theorem sigmasAgree_of_allBlank {front back : List Char} (blankFront : allBlank front = true)
    (blankBack : allBlank back = true) (text : List Char) : SigmasAgree front text back := by
  intro left right _split
  have blankBefore : allBlank front.reverse = true := by
    rw [allBlank, List.all_reverse]
    exact blankFront
  unfold endsWord
  rw [startsCased_append_blanks blankBefore, startsCased_append_blanks blankBack]

end ArtifactCatalog.Text
