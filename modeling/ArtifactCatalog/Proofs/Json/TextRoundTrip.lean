/-
The compact text of a JSON value. It is read back as the value, whatever characters
the texts in it hold, and none of its characters is a control character.
-/

import ArtifactCatalog.Json.Printer
import ArtifactCatalog.Json.Reader
import ArtifactCatalog.Proofs.Number.DecimalText
import ArtifactCatalog.Proofs.Text.Cutting

namespace ArtifactCatalog.Json

/-! ### Texts -/

section Text

variable {a b c d : Char} {unit : Nat} (taken rest : List Char)

theorem readText_simple (noUnit : c ≠ 'u') (simple : simpleEscape? c = some d) :
    readText taken ('\\' :: c :: rest) = readText (d :: taken) rest := by
  rw [readText.eq_5 _ _ _ (by intros; contradiction) (by intros; contradiction), simple]

/-- The reader looks at a second unit behind a first one, but takes it only to join a pair. -/
theorem readText_unit (written : hexUnit? a b c d = some unit)
    (whole : (isHighSurrogate unit || isLowSurrogate unit) = false) :
    readText taken ('\\' :: 'u' :: a :: b :: c :: d :: rest) =
      readText (Char.ofNat unit :: taken) rest := by
  rw [Bool.or_eq_false_iff] at whole
  rw [readText.eq_def]
  split
  · contradiction
  · rename_i same
    cases same
  · rename_i same
    cases same
    simp only [written, whole, Bool.false_eq_true, if_false]
  · rename_i same
    cases same
    simp only [written, whole, Bool.or_self, Bool.false_eq_true, if_false]
  · rename_i notUnit same
    cases same
    exact absurd rfl (notUnit _ _ _ _ _ rfl)
  · rename_i notEscape same
    cases same
    exact absurd rfl (notEscape _ _ rfl)

theorem readText_plain (visible : 0x20 ≤ c.toNat) (noQuote : c ≠ '"') (noEscape : c ≠ '\\') :
    readText taken (c :: rest) = readText (c :: taken) rest := by
  have allowed : ¬ (c.toNat < 0x20 ∨ c = '\\') := by
    rintro (control | isEscape)
    · omega
    · exact noEscape isEscape
  rw [readText.eq_6 _ _ _ noQuote (by intros; contradiction) (by intros; contradiction)
    (by intros; contradiction), if_neg allowed]

theorem hexUnit?_control : ∀ n < 0x20,
    hexUnit? '0' '0' (Text.hexChar (n / 16)) (Text.hexChar (n % 16)) = some n := by
  decide

theorem readText_renderChar (c : Char) :
    readText taken (renderChar c ++ rest) = readText (c :: taken) rest := by
  have control {n : Nat} (isControl : c.toNat = n) : c = Char.ofNat n := by
    rw [← isControl, Char.ofNat_toNat]
  unfold renderChar
  split
  case isTrue isQuote =>
    rw [isQuote]
    exact readText_simple _ _ (by decide) rfl
  split
  case isTrue isEscape =>
    rw [isEscape]
    exact readText_simple _ _ (by decide) rfl
  split
  case isTrue isBackspace =>
    rw [control isBackspace]
    exact readText_simple _ _ (by decide) rfl
  split
  case isTrue isTab =>
    rw [control isTab]
    exact readText_simple _ _ (by decide) rfl
  split
  case isTrue isLineFeed =>
    rw [control isLineFeed]
    exact readText_simple _ _ (by decide) rfl
  split
  case isTrue isFormFeed =>
    rw [control isFormFeed]
    exact readText_simple _ _ (by decide) rfl
  split
  case isTrue isReturn =>
    rw [control isReturn]
    exact readText_simple _ _ (by decide) rfl
  split
  case isTrue isControl =>
    have whole : (isHighSurrogate c.toNat || isLowSurrogate c.toNat) = false := by
      simp only [isHighSurrogate, isLowSurrogate, Bool.or_eq_false_iff, Bool.and_eq_false_iff,
        decide_eq_false_iff_not]
      omega
    rw [← Char.ofNat_toNat c]
    have read := readText_unit taken rest (hexUnit?_control c.toNat isControl) whole
    rwa [Char.ofNat_toNat] at read ⊢
  case isFalse noQuote noEscape _ _ _ _ _ noControl =>
    exact readText_plain _ _ (Nat.le_of_not_lt noControl) noQuote noEscape

theorem readText_flatMap (s : List Char) :
    readText taken (s.flatMap renderChar ++ '"' :: rest) = some (taken.reverse ++ s, rest) := by
  induction s generalizing taken with
  | nil =>
      rw [List.flatMap_nil, List.nil_append, List.append_nil]
      exact readText.eq_2 _ _
  | cons c s ih =>
      rw [List.flatMap_cons, List.append_assoc, readText_renderChar, ih, List.reverse_cons,
        List.append_assoc]
      rfl

end Text

/-! ### Numbers -/

def EndsNumber (rest : List Char) : Prop :=
  ∀ c ∈ rest.head?, Text.isAsciiDigit c = false ∧ c ∉ ['.', 'e', 'E']

theorem readFraction?_of_endsNumber {rest : List Char} (ends : EndsNumber rest) :
    readFraction? rest = some ([], rest) := by
  unfold readFraction?
  split
  · exact absurd (by decide) (ends '.' rfl).2
  · rfl

theorem readExponent?_of_endsNumber {rest : List Char} (ends : EndsNumber rest) :
    readExponent? rest = some (none, rest) := by
  unfold readExponent?
  split
  · rfl
  · rename_i mark behind
    have noMark := (ends mark rfl).2
    rw [if_neg]
    rintro (rfl | rfl)
    · exact noMark (by decide)
    · exact noMark (by decide)

theorem isWholePart_natDigits (n : Nat) : isWholePart (Number.natDigits n) = true := by
  by_cases zero : n = 0
  · rw [zero]
    rfl
  · have noZero := Number.head?_natDigits_ne_zero zero
    cases digits : Number.natDigits n with
    | nil => exact absurd digits (Number.natDigits_ne_nil n)
    | cons first more =>
        rw [digits, List.head?_cons, Ne, Option.some.injEq] at noZero
        unfold isWholePart
        split
        · contradiction
        · rfl
        · rename_i same
          rw [List.cons.injEq] at same
          rw [← same.1, bne_iff_ne]
          exact noZero

theorem readNumber_intDigits {n : Int} (isWord : isWord n = true) {rest : List Char}
    (ends : EndsNumber rest) :
    readNumber (Number.intDigits n ++ rest) = some (integer n, rest) := by
  obtain ⟨digits, left⟩ := Text.takeWhile_append_exact (p := Text.isAsciiDigit)
    (fun _ => Number.isAsciiDigit_of_mem_natDigits (n := n.natAbs))
    (fun c atHead => (ends c atHead).1)
  have noNegativeZero : (decide (n < 0) && n == 0) = false := by
    rw [Bool.and_eq_false_iff, decide_eq_false_iff_not, beq_eq_false_iff_ne]
    omega
  unfold readNumber
  split
  rename_i negative body sign
  obtain ⟨rfl, rfl⟩ : negative = decide (n < 0) ∧
      body = Number.natDigits n.natAbs ++ rest := by
    unfold Number.intDigits at sign
    by_cases below : n < 0
    · rw [if_pos below] at sign
      cases sign
      exact ⟨(decide_eq_true below).symm, rfl⟩
    · rw [if_neg below] at sign
      split at sign
      · rename_i minus
        obtain ⟨first, more, same⟩ := List.exists_cons_of_ne_nil
          (Number.natDigits_ne_nil n.natAbs)
        rw [same, List.cons_append, List.cons.injEq] at minus
        have isDigit := Number.isAsciiDigit_of_mem_natDigits (n := n.natAbs) (c := first)
          (by rw [same]; exact List.mem_cons_self)
        rw [minus.1] at isDigit
        cases isDigit
      · cases sign
        exact ⟨(decide_eq_false below).symm, rfl⟩
  dsimp only [Option.bind_eq_bind]
  rw [digits, left, isWholePart_natDigits, readFraction?_of_endsNumber ends]
  dsimp only [Option.bind_some, guard]
  rw [readExponent?_of_endsNumber ends]
  dsimp only [Option.bind_some]
  rw [Number.ofDigits_natDigits, Number.applySign_natAbs, isWord, noNegativeZero]
  rfl

/-! ### Values -/

/-- A value of at most so many levels of nesting, with whole numbers of 64 bits only and
with objects that list each name once. -/
inductive Legible : Nat → Json → Prop where
  | null {depth : Nat} : Legible depth .null
  | boolean {depth : Nat} (value : Bool) : Legible depth (.boolean value)
  | integer {depth : Nat} {n : Int} (word : isWord n = true) : Legible depth (.integer n)
  | text {depth : Nat} (s : String) : Legible depth (.text s)
  | list {depth : Nat} {items : List Json} (each : ∀ item ∈ items, Legible depth item) :
      Legible (depth + 1) (.list items)
  | object {depth : Nat} {fields : List (String × Json)} (distinct : (fields.map Prod.fst).Nodup)
      (each : ∀ field ∈ fields, Legible depth field.2) : Legible (depth + 1) (.object fields)

def IsRead (depth : Nat) (value : Json) : Prop :=
  ∀ fuel rest, 2 * (render value).length ≤ fuel → EndsNumber rest →
    readValue fuel depth (render value ++ rest) = some (value, rest)

theorem skipBlanks_cons {c : Char} (visible : isJsonBlank c = false) (rest : List Char) :
    skipBlanks (c :: rest) = c :: rest :=
  List.dropWhile_cons_of_neg (by rw [visible]; exact Bool.false_ne_true)

theorem endsNumber_cons {c : Char} {rest : List Char} (noDigit : Text.isAsciiDigit c = false)
    (noMark : c ∉ ['.', 'e', 'E']) : EndsNumber (c :: rest) := by
  rintro _ ⟨⟩
  exact ⟨noDigit, noMark⟩

theorem exists_intDigits_eq_cons (n : Int) : ∃ c behind, Number.intDigits n = c :: behind ∧
    (c = '-' ∨ Text.isAsciiDigit c = true) := by
  unfold Number.intDigits
  split
  · exact ⟨_, _, rfl, Or.inl rfl⟩
  · obtain ⟨first, more, same⟩ := List.exists_cons_of_ne_nil (Number.natDigits_ne_nil n.natAbs)
    refine ⟨first, more, same, Or.inr ?_⟩
    exact Number.isAsciiDigit_of_mem_natDigits (by rw [same]; exact List.mem_cons_self)

theorem readValue_number {c : Char} {rest : List Char}
    (isStart : c = '-' ∨ Text.isAsciiDigit c = true) (fuel depth : Nat) : readValue (fuel + 1) depth (c :: rest) = readNumber (c :: rest) := by
  have other : ∀ d ∈ ['n', 't', 'f', '"', '[', '\x7b'], d ≠ '-' ∧ Text.isAsciiDigit d = false :=
    List.forall_iff_forall_mem.1 (by decide)
  have apart : ∀ d ∈ ['n', 't', 'f', '"', '[', '\x7b'], c ≠ d := by
    rintro d isOther rfl
    obtain ⟨noMinus, noDigit⟩ := other c isOther
    rw [noDigit] at isStart
    exact noMinus (isStart.resolve_right Bool.false_ne_true)
  have visible : isJsonBlank c = false := by
    rcases isStart with rfl | isDigit
    · rfl
    · unfold Text.isAsciiDigit at isDigit
      unfold isJsonBlank
      grind
  rw [readValue, skipBlanks_cons visible]
  split
  all_goals first | rfl | (rename_i same; exact absurd (List.cons.inj same).1 (apart _ (by decide)))

theorem exists_render_eq_cons {depth : Nat} {value : Json} (legible : Legible depth value) :
    ∃ c behind, render value = c :: behind ∧ isJsonBlank c = false ∧ c ≠ ']' := by
  cases legible with
  | null => exact ⟨_, _, rfl, by decide, by decide⟩
  | boolean flag => cases flag <;> exact ⟨_, _, rfl, by decide, by decide⟩
  | integer _word =>
      obtain ⟨c, behind, same, rfl | isDigit⟩ := exists_intDigits_eq_cons ‹Int›
      · exact ⟨_, _, same, by decide, by decide⟩
      · refine ⟨c, behind, same, ?_, ?_⟩
        · unfold Text.isAsciiDigit at isDigit
          unfold isJsonBlank
          grind
        · rintro rfl
          cases isDigit
  | text s => exact ⟨_, _, rfl, by decide, by decide⟩
  | list _each => exact ⟨_, _, rfl, by decide, by decide⟩
  | object _distinct _each => exact ⟨_, _, rfl, by decide, by decide⟩

section Steps

variable {fuel depth : Nat} {s rest : List Char}

theorem readItems_last {item : Json} (isItem : readValue fuel depth s = some (item, ']' :: rest)) :
    readItems (fuel + 1) depth s = some ([item], rest) := by
  rw [readItems, isItem]
  rfl

theorem readItems_more {item : Json} (isItem : readValue fuel depth s = some (item, ',' :: rest)) :
    readItems (fuel + 1) depth s =
      (readItems fuel depth rest).map fun (items, rest) => (item :: items, rest) := by
  rw [readItems, isItem]
  rfl

variable {name body : List Char} {value : Json}

theorem readFields_last (isName : readText [] s = some (name, ':' :: body))
    (isValue : readValue fuel depth body = some (value, '\x7d' :: rest)) :
    readFields (fuel + 1) depth ('"' :: s) = some ([(String.ofList name, value)], rest) := by
  have atName : skipBlanks ('"' :: s) = '"' :: s := skipBlanks_cons rfl s
  have atColon : skipBlanks (':' :: body) = ':' :: body := skipBlanks_cons rfl body
  have atEnd : skipBlanks ('\x7d' :: rest) = '\x7d' :: rest := skipBlanks_cons rfl rest
  simp only [readFields, atName, isName, atColon, isValue, atEnd]

theorem readFields_more (isName : readText [] s = some (name, ':' :: body))
    (isValue : readValue fuel depth body = some (value, ',' :: rest)) :
    readFields (fuel + 1) depth ('"' :: s) =
      (readFields fuel depth rest).map fun (fields, rest) =>
        ((String.ofList name, value) :: fields, rest) := by
  have atName : skipBlanks ('"' :: s) = '"' :: s := skipBlanks_cons rfl s
  have atColon : skipBlanks (':' :: body) = ':' :: body := skipBlanks_cons rfl body
  have atComma : skipBlanks (',' :: rest) = ',' :: rest := skipBlanks_cons rfl rest
  simp only [readFields, atName, isName, atColon, isValue, atComma]

theorem readValue_items (nonempty : ∃ c behind, s = c :: behind ∧ isJsonBlank c = false ∧ c ≠ ']') :
    readValue (fuel + 1) (depth + 1) ('[' :: s) =
      (readItems fuel depth s).map fun (items, rest) => (list items, rest) := by
  obtain ⟨c, behind, rfl, visible, noEnd⟩ := nonempty
  have atStart : skipBlanks ('[' :: c :: behind) = '[' :: c :: behind := skipBlanks_cons rfl _
  simp only [readValue, atStart, skipBlanks_cons visible]
  split
  · rename_i same
    exact absurd (List.cons.inj same).1 noEnd
  · rfl

theorem readValue_fields :
    readValue (fuel + 1) (depth + 1) ('\x7b' :: '"' :: s) =
      (readFields fuel depth ('"' :: s)).map fun (fields, rest) =>
        (object (fields.foldl (fun known (name, value) => setField name value known) []),
          rest) := by
  have atStart : skipBlanks ('\x7b' :: '"' :: s) = '\x7b' :: '"' :: s := skipBlanks_cons rfl _
  have atName : skipBlanks ('"' :: s) = '"' :: s := skipBlanks_cons rfl s
  simp only [readValue, atStart, atName]
  rfl

end Steps

/-- Each further item takes one call, as the mark in front of it takes one character. -/
theorem readItems_renderItems {depth : Nat} {item : Json} {others : List Json}
    (each : ∀ other ∈ item :: others, IsRead depth other) {fuel : Nat}
    (enough : 2 * (renderItems (item :: others)).length + 1 ≤ fuel) (rest : List Char) :
    readItems fuel depth (renderItems (item :: others) ++ ']' :: rest) =
      some (item :: others, rest) := by
  induction others generalizing item fuel with
  | nil =>
      obtain ⟨fuel, rfl⟩ := Nat.exists_eq_add_one.2 (Nat.lt_of_lt_of_le (Nat.succ_pos _) enough)
      have written : renderItems [item] = render item := List.append_nil _
      rw [written] at enough ⊢
      exact readItems_last <| each item List.mem_cons_self fuel _ (Nat.le_of_succ_le_succ enough)
        (endsNumber_cons rfl (by decide))
  | cons second others ih =>
      obtain ⟨fuel, rfl⟩ := Nat.exists_eq_add_one.2 (Nat.lt_of_lt_of_le (Nat.succ_pos _) enough)
      have written : renderItems (item :: second :: others) =
          render item ++ ',' :: renderItems (second :: others) := rfl
      rw [written, List.length_append, List.length_cons] at enough
      rw [written, List.append_assoc, List.cons_append,
        readItems_more <| each item List.mem_cons_self fuel _ (by omega)
          (endsNumber_cons rfl (by decide)),
        ih (fun other member => each other (List.mem_cons_of_mem item member)) (by omega)]
      rfl

theorem renderFields_cons (name : String) (value : Json) (others : List (String × Json)) :
    renderFields ((name, value) :: others) = '"' :: (name.toList.flatMap renderChar ++
      '"' :: ':' :: (render value ++ renderMoreFields others)) := by
  simp only [renderFields, renderText, List.cons_append, List.append_assoc, List.nil_append]

theorem readFields_renderFields {depth : Nat} {field : String × Json}
    {others : List (String × Json)} (each : ∀ other ∈ field :: others, IsRead depth other.2)
    {fuel : Nat} (enough : 2 * (renderFields (field :: others)).length + 1 ≤ fuel)
    (rest : List Char) :
    readFields fuel depth (renderFields (field :: others) ++ '\x7d' :: rest) =
      some (field :: others, rest) := by
  induction others generalizing field fuel with
  | nil =>
      obtain ⟨name, value⟩ := field
      have isRead : IsRead depth value := each (name, value) List.mem_cons_self
      obtain ⟨fuel, rfl⟩ := Nat.exists_eq_add_one.2 (Nat.lt_of_lt_of_le (Nat.succ_pos _) enough)
      have written : renderMoreFields [] = [] := rfl
      rw [renderFields_cons, written, List.append_nil] at enough ⊢
      simp only [List.length_cons, List.length_append] at enough
      simp only [List.cons_append, List.append_assoc]
      rw [readFields_last (readText_flatMap [] _ _)
          (isRead fuel _ (by omega) (endsNumber_cons rfl (by decide))),
        List.reverse_nil, List.nil_append, String.ofList_toList]
  | cons second others ih =>
      obtain ⟨name, value⟩ := field
      have isRead : IsRead depth value := each (name, value) List.mem_cons_self
      obtain ⟨fuel, rfl⟩ := Nat.exists_eq_add_one.2 (Nat.lt_of_lt_of_le (Nat.succ_pos _) enough)
      have written : renderMoreFields (second :: others) = ',' :: renderFields (second :: others) :=
        rfl
      rw [renderFields_cons, written] at enough ⊢
      simp only [List.length_cons, List.length_append] at enough
      simp only [List.cons_append, List.append_assoc]
      rw [readFields_more (readText_flatMap [] _ _)
          (isRead fuel _ (by omega) (endsNumber_cons rfl (by decide))),
        ih (fun other member => each other (List.mem_cons_of_mem (name, value) member)) (by omega),
        List.reverse_nil, List.nil_append, String.ofList_toList]
      rfl

/-! ### Objects -/

theorem setField_of_not_mem {name : String} {known : List (String × Json)}
    (isNew : name ∉ known.map Prod.fst) (value : Json) :
    setField name value known = known ++ [(name, value)] := by
  induction known with
  | nil => rfl
  | cons field known ih =>
      obtain ⟨other, old⟩ := field
      rw [List.map_cons, List.mem_cons, not_or] at isNew
      rw [setField, if_neg (Ne.symm isNew.1), ih isNew.2, List.cons_append]

theorem foldl_setField {known fields : List (String × Json)}
    (distinct : ((known ++ fields).map Prod.fst).Nodup) :
    fields.foldl (fun known (name, value) => setField name value known) known =
      known ++ fields := by
  induction fields generalizing known with
  | nil => rw [List.foldl_nil, List.append_nil]
  | cons field fields ih =>
      obtain ⟨name, value⟩ := field
      have isNew : name ∉ known.map Prod.fst := by
        rw [List.map_append, List.map_cons] at distinct
        intro isOld
        exact (List.nodup_append.1 distinct).2.2 name isOld name List.mem_cons_self rfl
      rw [List.foldl_cons]
      dsimp only
      rw [setField_of_not_mem isNew, ih, List.append_assoc]
      · rfl
      · rwa [List.append_assoc]

/-! ### Whole values -/

/-- A value is written in one character at least, so that reading it has fuel. -/
theorem isRead_of_succ {depth : Nat} {value : Json} (nonempty : render value ≠ [])
    (step : ∀ fuel rest, 2 * (render value).length ≤ fuel + 1 → EndsNumber rest →
      readValue (fuel + 1) depth (render value ++ rest) = some (value, rest)) :
    IsRead depth value := by
  intro fuel rest enough ends
  have positive : 0 < fuel := by
    have length := List.length_pos_iff.2 nonempty
    omega
  obtain ⟨fuel, rfl⟩ := Nat.exists_eq_add_one.2 positive
  exact step fuel rest enough ends

theorem isRead_boolean (depth : Nat) (flag : Bool) : IsRead depth (boolean flag) := by
  refine isRead_of_succ ?_ fun fuel rest _ _ => ?_
  · cases flag <;> exact List.cons_ne_nil _ _
  · cases flag <;> rfl

theorem isRead_integer (depth : Nat) {n : Int} (word : isWord n = true) :
    IsRead depth (integer n) := by
  obtain ⟨c, behind, same, isStart⟩ := exists_intDigits_eq_cons n
  have written : render (integer n) = c :: behind := same
  refine isRead_of_succ (by rw [written]; exact List.cons_ne_nil _ _) fun fuel rest _ ends => ?_
  have read := readNumber_intDigits word ends
  rw [same] at read
  rw [written, List.cons_append, readValue_number isStart]
  exact read

theorem isRead_text (depth : Nat) (s : String) : IsRead depth (text s) := by
  refine isRead_of_succ (List.cons_ne_nil _ _) fun fuel rest _ _ => ?_
  have written : render (text s) ++ rest = '"' :: (s.toList.flatMap renderChar ++ '"' :: rest) := by
    simp [render, renderText]
  have atStart (body : List Char) : skipBlanks ('"' :: body) = '"' :: body :=
    skipBlanks_cons rfl body
  simp only [written, readValue, atStart, readText_flatMap, Option.map_some, List.reverse_nil,
    List.nil_append, String.ofList_toList]

theorem isRead_list {depth : Nat} {items : List Json}
    (legible : ∀ item ∈ items, Legible depth item) (each : ∀ item ∈ items, IsRead depth item) :
    IsRead (depth + 1) (list items) := by
  refine isRead_of_succ (List.cons_ne_nil _ _) fun fuel rest enough _ => ?_
  cases items with
  | nil => rfl
  | cons item others =>
      have written : render (list (item :: others)) =
          '[' :: (renderItems (item :: others) ++ [']']) := rfl
      obtain ⟨c, behind, same, visible, noEnd⟩ :=
        exists_render_eq_cons (legible item List.mem_cons_self)
      have nonempty : ∃ c behind, renderItems (item :: others) ++ ']' :: rest = c :: behind ∧
          isJsonBlank c = false ∧ c ≠ ']' := by
        refine ⟨c, behind ++ renderMoreItems others ++ ']' :: rest, ?_, visible, noEnd⟩
        rw [renderItems, same]
        rfl
      rw [written, List.length_cons, List.length_append, List.length_singleton] at enough
      rw [written, List.cons_append, List.append_assoc, List.singleton_append,
        readValue_items nonempty, readItems_renderItems each (by omega)]
      rfl

theorem isRead_object {depth : Nat} {fields : List (String × Json)}
    (distinct : (fields.map Prod.fst).Nodup) (each : ∀ field ∈ fields, IsRead depth field.2) :
    IsRead (depth + 1) (object fields) := by
  refine isRead_of_succ (List.cons_ne_nil _ _) fun fuel rest enough _ => ?_
  cases fields with
  | nil => rfl
  | cons field others =>
      have written : render (object (field :: others)) =
          '\x7b' :: (renderFields (field :: others) ++ ['\x7d']) := rfl
      have unchanged : (field :: others).foldl _ [] = [] ++ field :: others :=
        foldl_setField distinct
      rw [written, List.length_cons, List.length_append, List.length_singleton] at enough
      rw [written, List.cons_append, List.append_assoc, List.singleton_append]
      have read : readFields fuel _ _ = _ := readFields_renderFields each (by omega) rest
      rw [renderFields_cons, List.cons_append] at read ⊢
      rw [readValue_fields, read, Option.map_some]
      dsimp only
      rw [unchanged, List.nil_append]

theorem isRead_of_legible {depth : Nat} {value : Json} (legible : Legible depth value) :
    IsRead depth value := by
  induction legible with
  | null => exact isRead_of_succ (List.cons_ne_nil _ _) fun fuel rest _ _ => rfl
  | boolean flag => exact isRead_boolean _ flag
  | integer word => exact isRead_integer _ word
  | text s => exact isRead_text _ s
  | list legible each => exact isRead_list legible each
  | object distinct _legible each => exact isRead_object distinct each

theorem parse?_compact {value : Json} (legible : Legible nestingLimit value) :
    parse? (compact value) = some value := by
  have read := isRead_of_legible legible (2 * (render value).length + 2) [] (by omega) nofun
  rw [List.append_nil] at read
  unfold parse? compact
  rw [String.toList_ofList]
  dsimp only
  rw [read]
  rfl

/-! ### Control characters -/

def IsControlFree (text : List Char) : Prop := ∀ c ∈ text, 0x20 ≤ c.toNat

theorem isControlFree_append {front back : List Char} :
    IsControlFree (front ++ back) ↔ IsControlFree front ∧ IsControlFree back :=
  List.forall_mem_append

theorem isControlFree_cons {c : Char} {text : List Char} :
    IsControlFree (c :: text) ↔ 0x20 ≤ c.toNat ∧ IsControlFree text :=
  List.forall_mem_cons

theorem isControlFree_renderChar (c : Char) : IsControlFree (renderChar c) := by
  by_cases isControl : c.toNat < 0x20
  · have escaped : ∀ n < 0x20, (renderChar (Char.ofNat n)).Forall (0x20 ≤ ·.toNat) := by decide
    rw [← Char.ofNat_toNat c]
    exact List.forall_iff_forall_mem.1 (escaped c.toNat isControl)
  · unfold renderChar
    split
    · exact List.forall_iff_forall_mem.1 (by decide)
    · split
      · exact List.forall_iff_forall_mem.1 (by decide)
      · rw [if_neg (by omega), if_neg (by omega), if_neg (by omega), if_neg (by omega),
          if_neg (by omega)]
        exact isControlFree_cons.2 ⟨Nat.le_of_not_lt isControl, nofun⟩

theorem isControlFree_intDigits (n : Int) : IsControlFree (Number.intDigits n) := by
  have digits : IsControlFree (Number.natDigits n.natAbs) := by
    intro c member
    have isDigit := Number.isAsciiDigit_of_mem_natDigits member
    simp only [Text.isAsciiDigit, Bool.and_eq_true, decide_eq_true_eq] at isDigit
    omega
  unfold Number.intDigits
  split
  · exact isControlFree_cons.2 ⟨by decide, digits⟩
  · exact digits

theorem isControlFree_renderText (s : String) : IsControlFree (renderText s) := by
  unfold renderText
  rw [isControlFree_cons, isControlFree_append]
  refine ⟨by decide, fun c member => ?_, List.forall_iff_forall_mem.1 (by decide)⟩
  obtain ⟨d, _isChar, written⟩ := List.mem_flatMap.1 member
  exact isControlFree_renderChar d c written

theorem isControlFree_renderItems {items : List Json}
    (each : ∀ item ∈ items, IsControlFree (render item)) :
    IsControlFree (renderItems items) ∧ IsControlFree (renderMoreItems items) := by
  induction items with
  | nil => exact ⟨nofun, nofun⟩
  | cons item others ih =>
      rw [List.forall_mem_cons] at each
      obtain ⟨_, more⟩ := ih each.2
      have written := isControlFree_append.2 ⟨each.1, more⟩
      exact ⟨written, isControlFree_cons.2 ⟨by decide, written⟩⟩

theorem isControlFree_renderFields {fields : List (String × Json)}
    (each : ∀ field ∈ fields, IsControlFree (render field.2)) :
    IsControlFree (renderFields fields) ∧ IsControlFree (renderMoreFields fields) := by
  induction fields with
  | nil => exact ⟨nofun, nofun⟩
  | cons field others ih =>
      obtain ⟨name, value⟩ := field
      rw [List.forall_mem_cons] at each
      obtain ⟨_, more⟩ := ih each.2
      have written : IsControlFree (renderFields ((name, value) :: others)) :=
        isControlFree_append.2 ⟨isControlFree_renderText name,
          isControlFree_cons.2 ⟨by decide, isControlFree_append.2 ⟨each.1, more⟩⟩⟩
      exact ⟨written, isControlFree_cons.2 ⟨by decide, written⟩⟩

theorem isControlFree_render {depth : Nat} {value : Json} (legible : Legible depth value) :
    IsControlFree (render value) := by
  induction legible with
  | null => exact List.forall_iff_forall_mem.1 (by decide)
  | boolean flag => cases flag <;> exact List.forall_iff_forall_mem.1 (by decide)
  | integer _word => exact isControlFree_intDigits _
  | text s => exact isControlFree_renderText s
  | list _each ih =>
      exact isControlFree_cons.2 ⟨by decide, isControlFree_append.2
        ⟨(isControlFree_renderItems ih).1, List.forall_iff_forall_mem.1 (by decide)⟩⟩
  | object _distinct _each ih =>
      exact isControlFree_cons.2 ⟨by decide, isControlFree_append.2
        ⟨(isControlFree_renderFields ih).1, List.forall_iff_forall_mem.1 (by decide)⟩⟩

end ArtifactCatalog.Json
