/-
Texts cut in two: at the last of the marks in them, or where a run of characters of
one kind ends.
-/

import ArtifactCatalog.Proofs.Text.Joining

namespace ArtifactCatalog.Text

theorem cutLast_eq_none {mark : Char} {text : List Char} (absent : mark ∉ text) :
    cutLast mark text = none := by
  induction text with
  | nil => rfl
  | cons c rest ih =>
      rw [List.mem_cons, not_or] at absent
      rw [cutLast, ih absent.2]
      exact if_neg (Ne.symm absent.1)

theorem cutLast_append_cons {mark : Char} {back : List Char} (absent : mark ∉ back)
    (front : List Char) : cutLast mark (front ++ mark :: back) = some (front, back) := by
  induction front with
  | nil =>
      rw [List.nil_append, cutLast, cutLast_eq_none absent]
      exact if_pos rfl
  | cons c front ih => rw [List.cons_append, cutLast, ih]

theorem cutLast_unique {mark : Char} {front back otherFront otherBack : List Char}
    (absent : mark ∉ back) (otherAbsent : mark ∉ otherBack)
    (same : front ++ mark :: back = otherFront ++ mark :: otherBack) :
    front = otherFront ∧ back = otherBack := by
  have cut := congrArg (cutLast mark) same
  rw [cutLast_append_cons absent, cutLast_append_cons otherAbsent] at cut
  exact Prod.mk.inj (Option.some.inj cut)

theorem exists_cutLast {mark : Char} {text : List Char} (present : mark ∈ text) :
    ∃ front back, text = front ++ mark :: back ∧ mark ∉ back := by
  obtain ⟨back, front, reversed, absent⟩ :=
    List.eq_append_cons_of_mem (List.mem_reverse.2 present)
  refine ⟨front.reverse, back.reverse, ?_, by rwa [List.mem_reverse]⟩
  rw [← List.reverse_reverse text, reversed]
  simp

theorem takeWhile_append_exact {p : Char → Bool} {front rest : List Char}
    (inside : ∀ c ∈ front, p c = true) (stops : ∀ c ∈ rest.head?, p c = false) :
    (front ++ rest).takeWhile p = front ∧ (front ++ rest).dropWhile p = rest := by
  rw [List.takeWhile_append_of_pos inside, List.dropWhile_append_of_pos inside,
    dropWhile_eq_self stops]
  refine ⟨?_, rfl⟩
  cases rest with
  | nil => rw [List.takeWhile_nil, List.append_nil]
  | cons c rest =>
      rw [List.takeWhile_cons_of_neg (by rw [stops c rfl]; exact Bool.false_ne_true),
        List.append_nil]

end ArtifactCatalog.Text
