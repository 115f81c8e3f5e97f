/-
Parts joined by a mark, as folders are by slashes and the steps of a group by
dots, and texts without certain characters at their two ends.
-/

import ArtifactCatalog.Text.Blank
import ArtifactCatalog.Text.Cut
import Mathlib.Data.List.Basic
import Mathlib.Data.List.TakeWhile

namespace ArtifactCatalog.Text

variable {mark other : Char} {parts others : List (List Char)}

/-! ### Joined parts -/

theorem intercalate_append (nonempty : parts ≠ []) (nonemptyToo : others ≠ []) :
    [mark].intercalate (parts ++ others) =
      [mark].intercalate parts ++ mark :: [mark].intercalate others := by
  induction parts with
  | nil => exact absurd rfl nonempty
  | cons part rest ih =>
      by_cases last : rest = []
      · subst last
        rw [List.cons_append, List.nil_append, List.intercalate_cons_of_ne_nil nonemptyToo,
          List.intercalate_singleton, List.append_assoc]
        rfl
      · have more : rest ++ others ≠ [] := List.append_ne_nil_of_left_ne_nil last others
        rw [List.cons_append, List.intercalate_cons_of_ne_nil more,
          List.intercalate_cons_of_ne_nil last, ih last, List.append_assoc _ _ (mark :: _)]

theorem mem_intercalate {c : Char} {part : List Char} (member : c ∈ part)
    (isPart : part ∈ parts) : c ∈ [mark].intercalate parts := by
  induction parts with
  | nil => cases isPart
  | cons first rest ih =>
      by_cases last : rest = []
      · subst last
        rw [List.mem_singleton.1 isPart] at member
        rw [List.intercalate_singleton]
        exact member
      · rw [List.intercalate_cons_of_ne_nil last]
        rcases List.mem_cons.1 isPart with same | later
        · rw [same] at member
          exact List.mem_append_left _ (List.mem_append_left _ member)
        · exact List.mem_append_right _ (ih later)

theorem eq_or_mem_of_mem_intercalate {c : Char} (member : c ∈ [mark].intercalate parts) :
    c = mark ∨ ∃ part ∈ parts, c ∈ part := by
  induction parts with
  | nil => exact absurd member List.not_mem_nil
  | cons part rest ih =>
      by_cases last : rest = []
      · subst last
        rw [List.intercalate_singleton] at member
        exact .inr ⟨part, List.mem_cons_self, member⟩
      · rw [List.intercalate_cons_of_ne_nil last, List.append_assoc] at member
        rcases List.mem_append.1 member with inPart | behind
        · exact .inr ⟨part, List.mem_cons_self, inPart⟩
        · rcases List.mem_cons.1 behind with isMark | later
          · exact .inl isMark
          · refine (ih later).imp_right ?_
            rintro ⟨other, isOther, within⟩
            exact ⟨other, List.mem_cons_of_mem part isOther, within⟩

theorem length_intercalate_eq (mark other : Char) (parts : List (List Char)) :
    ([mark].intercalate parts).length = ([other].intercalate parts).length := by
  induction parts with
  | nil => rw [List.intercalate_nil, List.intercalate_nil]
  | cons part rest ih =>
      by_cases last : rest = []
      · subst last
        rw [List.intercalate_singleton, List.intercalate_singleton]
      · rw [List.intercalate_cons_of_ne_nil last, List.intercalate_cons_of_ne_nil last,
          List.length_append, List.length_append, List.length_append, List.length_append, ih]
        rfl

theorem head?_intercalate {part : List Char} (nonempty : part ≠ []) (rest : List (List Char)) :
    ([mark].intercalate (part :: rest)).head? = part.head? := by
  obtain ⟨c, behind, rfl⟩ := List.exists_cons_of_ne_nil nonempty
  by_cases last : rest = []
  · subst last
    rw [List.intercalate_singleton]
  · rw [List.intercalate_cons_of_ne_nil last]
    rfl

theorem getLast?_intercalate {part : List Char} (nonempty : part ≠ [])
    (front : List (List Char)) :
    ([mark].intercalate (front ++ [part])).getLast? = part.getLast? := by
  by_cases only : front = []
  · subst only
    rw [List.nil_append, List.intercalate_singleton]
  · rw [intercalate_append only (List.cons_ne_nil part []), List.intercalate_singleton,
      List.getLast?_append_of_ne_nil _ (List.cons_ne_nil mark part),
      List.getLast?_cons_of_ne_nil nonempty]

theorem intercalate_injective (free : ∀ part ∈ parts, mark ∉ part)
    (freeToo : ∀ part ∈ others, mark ∉ part) (nonempty : parts ≠ []) (nonemptyToo : others ≠ [])
    (same : [mark].intercalate parts = [mark].intercalate others) : parts = others := by
  have split := congrArg (List.splitOn mark) same
  rw [List.splitOn_intercalate mark free nonempty,
    List.splitOn_intercalate mark freeToo nonemptyToo] at split
  exact split

theorem not_mem_of_mem_splitOn {text part : List Char} (isPart : part ∈ text.splitOn mark) :
    mark ∉ part := by
  induction text generalizing part with
  | nil =>
      rw [List.splitOn_nil, List.mem_singleton] at isPart
      rw [isPart]
      exact List.not_mem_nil
  | cons c rest ih =>
      rw [List.splitOn_cons_eq_if_modifyHead] at isPart
      split at isPart
      · rcases List.mem_cons.1 isPart with first | later
        · rw [first]
          exact List.not_mem_nil
        · exact ih later
      · rename_i differs
        cases split : rest.splitOn mark with
        | nil => exact absurd split (List.splitOn_ne_nil mark rest)
        | cons first later =>
            rw [split] at isPart ih
            rcases List.mem_cons.1 isPart with atHead | behind
            · rw [atHead, List.mem_cons, not_or]
              exact ⟨fun same => differs (by simp [same]), ih List.mem_cons_self⟩
            · exact ih (List.mem_cons_of_mem first behind)

/-! ### Replaced characters -/

theorem replaceChar_append (mark other : Char) (front back : List Char) :
    replaceChar mark other (front ++ back) =
      replaceChar mark other front ++ replaceChar mark other back := List.map_append

theorem replaceChar_of_not_mem {text : List Char} (absent : mark ∉ text) :
    replaceChar mark other text = text := by
  have unchanged : ∀ c ∈ text, (if c = mark then other else c) = id c := by
    intro c member
    refine if_neg ?_
    rintro rfl
    exact absent member
  unfold replaceChar
  rw [List.map_congr_left unchanged, List.map_id]

theorem replaceChar_intercalate (free : ∀ part ∈ parts, mark ∉ part) :
    replaceChar mark other ([mark].intercalate parts) = [other].intercalate parts := by
  induction parts with
  | nil => rw [List.intercalate_nil, List.intercalate_nil]; rfl
  | cons part rest ih =>
      have kept : replaceChar mark other part = part :=
        replaceChar_of_not_mem (free part List.mem_cons_self)
      by_cases last : rest = []
      · subst last
        rw [List.intercalate_singleton, List.intercalate_singleton, kept]
      · have marked : replaceChar mark other [mark] = [other] := by
          simp [replaceChar]
        rw [List.intercalate_cons_of_ne_nil last, List.intercalate_cons_of_ne_nil last,
          replaceChar_append, replaceChar_append, kept, marked,
          ih fun later isPart => free later (List.mem_cons_of_mem part isPart)]

theorem not_mem_replaceChar (differ : mark ≠ other) (text : List Char) :
    mark ∉ replaceChar mark other text := by
  intro member
  obtain ⟨c, _isChar, replaced⟩ := List.mem_map.1 member
  by_cases same : c = mark
  · rw [if_pos same] at replaced
    exact differ replaced.symm
  · rw [if_neg same] at replaced
    exact same replaced

/-! ### Stripped texts -/

variable {p : Char → Bool} {text : List Char}

theorem stripWhile_isPrefix (p : Char → Bool) (text : List Char) :
    stripWhile p text <+: text.dropWhile p := by
  unfold stripWhile dropEndWhile
  rw [← List.reverse_suffix, List.reverse_reverse]
  exact List.dropWhile_suffix p

theorem stripWhile_infix (p : Char → Bool) (text : List Char) : stripWhile p text <:+: text :=
  (stripWhile_isPrefix p text).isInfix.trans (List.dropWhile_suffix p).isInfix

theorem stripWhile_cons_of_pos {c : Char} (holds : p c = true) (text : List Char) :
    stripWhile p (c :: text) = stripWhile p text := by
  unfold stripWhile
  rw [List.dropWhile_cons_of_pos holds]

theorem dropWhile_eq_self (front : ∀ c ∈ text.head?, p c = false) : text.dropWhile p = text := by
  cases text with
  | nil => rfl
  | cons c rest => exact List.dropWhile_cons_of_neg (by rw [front c rfl]; exact Bool.false_ne_true)

theorem dropEndWhile_eq_self (back : ∀ c ∈ text.getLast?, p c = false) :
    dropEndWhile p text = text := by
  unfold dropEndWhile
  rw [dropWhile_eq_self (by rw [List.head?_reverse]; exact back), List.reverse_reverse]

theorem stripWhile_eq_self (front : ∀ c ∈ text.head?, p c = false)
    (back : ∀ c ∈ text.getLast?, p c = false) : stripWhile p text = text := by
  unfold stripWhile
  rw [dropWhile_eq_self front, dropEndWhile_eq_self back]

theorem dropWhile_append_cons {c : Char} (stays : p c = false) (text rest : List Char) :
    (text ++ c :: rest).dropWhile p = text.dropWhile p ++ c :: rest := by
  have staysFirst : (c :: rest).dropWhile p = c :: rest :=
    dropWhile_eq_self fun first isFirst => (Option.some.inj isFirst) ▸ stays
  rw [List.dropWhile_append, staysFirst]
  split
  · rename_i nothing
    rw [List.isEmpty_iff.1 nothing]
    rfl
  · rfl

theorem dropEndWhile_append_cons {c : Char} (stays : p c = false) (text rest : List Char) :
    dropEndWhile p (text ++ c :: rest) = text ++ c :: dropEndWhile p rest := by
  unfold dropEndWhile
  rw [List.reverse_append, List.reverse_cons, List.append_assoc, List.singleton_append,
    dropWhile_append_cons stays, List.reverse_append, List.reverse_cons, List.reverse_reverse,
    List.append_assoc, List.singleton_append]

theorem stripWhile_around {c : Char} (stays : p c = false) (text rest : List Char) :
    stripWhile p (text ++ c :: rest) = text.dropWhile p ++ c :: dropEndWhile p rest := by
  unfold stripWhile
  rw [dropWhile_append_cons stays, dropEndWhile_append_cons stays]

theorem stripWhile_cons_of_neg {c : Char} (stays : p c = false) (rest : List Char) :
    stripWhile p (c :: rest) = c :: dropEndWhile p rest :=
  stripWhile_around stays [] rest

theorem stripWhile_eq_dropWhile (back : ∀ last ∈ text.getLast?, p last = false) :
    stripWhile p text = text.dropWhile p := by
  apply dropEndWhile_eq_self
  intro last isLast
  obtain ⟨dropped, whole⟩ := List.dropWhile_suffix p (l := text)
  apply back
  rw [← whole, List.getLast?_append, isLast]
  rfl

theorem stripWhile_append_cons {c : Char} (stays : p c = false)
    (back : ∀ last ∈ text.getLast?, p last = false) (rest : List Char) :
    stripWhile p (text ++ c :: rest) = stripWhile p text ++ stripWhile p (c :: rest) := by
  rw [stripWhile_cons_of_neg stays, stripWhile_around stays, stripWhile_eq_dropWhile back]

theorem exists_around_stripWhile (p : Char → Bool) (text : List Char) :
    ∃ front back, text = front ++ stripWhile p text ++ back ∧ (∀ c ∈ front, p c = true) ∧
      ∀ c ∈ back, p c = true := by
  refine ⟨text.takeWhile p, (((text.dropWhile p).reverse).takeWhile p).reverse, ?_, ?_, ?_⟩
  · unfold stripWhile dropEndWhile
    rw [List.append_assoc, ← List.reverse_append, List.takeWhile_append_dropWhile,
      List.reverse_reverse, List.takeWhile_append_dropWhile]
  · intro c member
    exact List.mem_takeWhile_imp member
  · intro c member
    exact List.mem_takeWhile_imp (List.mem_reverse.1 member)

theorem stripWhile_around_text {front back : List Char} (dropFront : ∀ c ∈ front, p c = true)
    (dropBack : ∀ c ∈ back, p c = true) (text : List Char) :
    stripWhile p (front ++ text ++ back) = stripWhile p text := by
  have dropReversed : ∀ c ∈ back.reverse, p c = true := fun c member =>
    dropBack c (List.mem_reverse.1 member)
  unfold stripWhile dropEndWhile
  rw [List.append_assoc, List.dropWhile_append_of_pos dropFront, List.dropWhile_append]
  cases rest : text.dropWhile p with
  | nil =>
      rw [List.isEmpty_nil, if_pos rfl, List.dropWhile_eq_nil_iff.2 dropBack]
  | cons c behind =>
      rw [List.isEmpty_cons, if_neg Bool.false_ne_true, List.reverse_append,
        List.dropWhile_append_of_pos dropReversed]

theorem eq_false_of_head?_dropWhile {c : Char} (isFirst : (text.dropWhile p).head? = some c) :
    p c = false := by
  have stopped := List.head?_dropWhile_not p text
  rw [isFirst] at stopped
  exact stopped

theorem eq_false_of_getLast?_stripWhile {c : Char}
    (isLast : (stripWhile p text).getLast? = some c) : p c = false := by
  unfold stripWhile dropEndWhile at isLast
  rw [List.getLast?_reverse] at isLast
  exact eq_false_of_head?_dropWhile isLast

theorem eq_false_of_head?_stripWhile {c : Char}
    (isFirst : (stripWhile p text).head? = some c) : p c = false := by
  obtain ⟨dropped, whole⟩ := stripWhile_isPrefix p text
  have atFront : (text.dropWhile p).head? = some c := by
    rw [← whole, List.head?_append, isFirst]
    rfl
  exact eq_false_of_head?_dropWhile atFront

theorem trimEnd_eq_self (visible : ∀ c ∈ text, isBlank c = false) : trimEnd text = text :=
  dropEndWhile_eq_self fun last isLast => visible last (List.mem_of_mem_getLast? isLast)

theorem trimEnd_cons_of_visible {c : Char} (visible : isBlank c = false) (rest : List Char) :
    trimEnd (c :: rest) = c :: trimEnd rest :=
  dropEndWhile_append_cons visible [] rest

theorem trimEnd_cons_eq_nil_or (c : Char) (rest : List Char) :
    trimEnd (c :: rest) = [] ∨ trimEnd (c :: rest) = c :: trimEnd rest := by
  cases blank : isBlank c with
  | false => exact .inr (trimEnd_cons_of_visible blank rest)
  | true =>
      unfold trimEnd dropEndWhile
      rw [List.reverse_cons, List.dropWhile_append]
      split
      · left
        rw [List.dropWhile_cons_of_pos blank]
        rfl
      · right
        rw [List.reverse_append]
        rfl

end ArtifactCatalog.Text
