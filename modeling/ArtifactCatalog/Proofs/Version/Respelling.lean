/-
Spellings of a version. A small change of a version text leads the reader to a state from
which every rest of the text gives the same items, so all spellings are read alike.
-/

import ArtifactCatalog.Proofs.Text.Spelling
import ArtifactCatalog.Proofs.Version.Runs
import ArtifactCatalog.Proofs.Version.Segments
import ArtifactCatalog.Version.Order

namespace ArtifactCatalog.Version

theorem Item.ofDigits_append {run other : List Char}
    (same : Item.ofDigits run = Item.ofDigits other) (rest : List Char) :
    Item.ofDigits (run ++ rest) = Item.ofDigits (other ++ rest) := by
  have sameDigits : run.dropWhile (· == '0') = other.dropWhile (· == '0') := Item.number.inj same
  unfold Item.ofDigits
  rw [List.dropWhile_append, List.dropWhile_append, sameDigits]

theorem Item.ofQualifier_append {run other : List Char}
    (same : Item.ofQualifier run = Item.ofQualifier other) (rest : List Char) :
    Item.ofQualifier (run ++ rest) = Item.ofQualifier (other ++ rest) := by
  have sameText : run.map Text.asciiLowerChar = other.map Text.asciiLowerChar :=
    Item.qualifier.inj same
  unfold Item.ofQualifier Text.asciiLower
  rw [List.map_append, List.map_append, sameText]

namespace Reader

variable {reader other : Reader} {c : Char} {isDigits : Bool}

/-! ### Readers that go on alike -/

/-- Readers whose unfinished items are of one kind, and that have the same items once these
are ended. -/
structure Alike (reader other : Reader) : Prop where
  unfinished : reader.token = [] ↔ other.token = []
  kind : reader.token ≠ [] → reader.tokenIsDigits = other.tokenIsDigits
  items : reader.flush.items = other.flush.items

theorem flush_of_token_eq_nil (noToken : reader.token = []) : reader.flush = reader := by
  unfold flush
  rw [noToken]
  rfl

theorem items_flush_of_token (token : reader.token ≠ []) :
    reader.flush.items =
      if reader.tokenIsDigits then Item.ofDigits reader.token.reverse :: reader.items
      else Item.ofQualifier reader.token.reverse :: trimNulls 0 reader.items := by
  unfold flush
  rw [if_neg fun isEmpty => token (List.isEmpty_iff.1 isEmpty)]

theorem alike_of_items (noToken : reader.token = []) (alsoNone : other.token = [])
    (items : reader.items = other.items) : reader.Alike other := by
  refine ⟨iff_of_true noToken alsoNone, fun token => absurd noToken token, ?_⟩
  rw [flush_of_token_eq_nil noToken, flush_of_token_eq_nil alsoNone, items]

theorem Alike.finish (alike : reader.Alike other) : reader.finish = other.finish := by
  unfold Reader.finish
  rw [alike.items]

theorem Alike.flush (alike : reader.Alike other) : reader.flush.Alike other.flush :=
  alike_of_items reader.token_flush other.token_flush alike.items

theorem Alike.endSegment (alike : reader.Alike other) (grounded : reader.Grounded)
    (alsoGrounded : other.Grounded) : reader.endSegment.Alike other.endSegment := by
  refine alike_of_items reader.token_flush other.token_flush ?_
  rw [grounded.endSegment_items, alsoGrounded.endSegment_items, alike.items]

theorem items_flush_extend (reader : Reader) (c : Char) (isDigits : Bool) :
    (reader.extend c isDigits).flush.items =
      if isDigits then Item.ofDigits (reader.token.reverse ++ [c]) :: reader.items
      else Item.ofQualifier (reader.token.reverse ++ [c]) :: trimNulls 0 reader.items := by
  rw [items_flush_of_token (List.cons_ne_nil c reader.token)]
  unfold extend
  dsimp only
  rw [List.reverse_cons]

theorem Alike.extend (alike : reader.Alike other) (c : Char)
    (sameKind : reader.token = [] ∨ reader.tokenIsDigits = isDigits) :
    (reader.extend c isDigits).Alike (other.extend c isDigits) := by
  refine ⟨iff_of_false (List.cons_ne_nil c _) (List.cons_ne_nil c _), fun _ => rfl, ?_⟩
  rw [items_flush_extend, items_flush_extend]
  have items := alike.items
  by_cases noToken : reader.token = []
  · have alsoNone := alike.unfinished.1 noToken
    rw [flush_of_token_eq_nil noToken, flush_of_token_eq_nil alsoNone] at items
    rw [noToken, alsoNone, items]
  · have kind := sameKind.resolve_left noToken
    have alsoKind := (alike.kind noToken).symm.trans kind
    rw [items_flush_of_token noToken,
      items_flush_of_token fun alsoNone => noToken (alike.unfinished.2 alsoNone), kind,
      alsoKind] at items
    cases isDigits with
    | true =>
        obtain ⟨sameNumber, sameItems⟩ := List.cons.inj items
        rw [if_pos rfl, if_pos rfl, Item.ofDigits_append sameNumber [c], sameItems]
    | false =>
        obtain ⟨sameText, sameItems⟩ := List.cons.inj items
        rw [if_neg Bool.false_ne_true, if_neg Bool.false_ne_true,
          Item.ofQualifier_append sameText [c], sameItems]

theorem Alike.push (alike : reader.Alike other) (grounded : reader.Grounded)
    (alsoGrounded : other.Grounded) (c : Char) : (reader.push c).Alike (other.push c) := by
  by_cases sameKind : reader.token = [] ∨ reader.tokenIsDigits = Text.isAsciiDigit c
  · have alsoSame : other.token = [] ∨ other.tokenIsDigits = Text.isAsciiDigit c := by
      by_cases noToken : reader.token = []
      · exact .inl (alike.unfinished.1 noToken)
      · exact .inr ((alike.kind noToken).symm.trans (sameKind.resolve_left noToken))
    rw [push_of_sameKind sameKind, push_of_sameKind alsoSame]
    exact alike.extend c sameKind
  · obtain ⟨token, otherKind⟩ := not_or.1 sameKind
    have alsoOther : other.tokenIsDigits ≠ Text.isAsciiDigit c := by
      rw [← alike.kind token]
      exact otherKind
    rw [push_of_otherKind token otherKind,
      push_of_otherKind (fun alsoNone => token (alike.unfinished.2 alsoNone)) alsoOther]
    exact (alike.endSegment grounded alsoGrounded).extend c (.inl reader.token_flush)

theorem Alike.step (alike : reader.Alike other) (grounded : reader.Grounded)
    (alsoGrounded : other.Grounded) (c : Char) : (reader.step c).Alike (other.step c) := by
  unfold Reader.step
  split
  · exact alike.flush
  · split
    · exact alike.endSegment grounded alsoGrounded
    · exact alike.push grounded alsoGrounded c

theorem Alike.foldl (alike : reader.Alike other) (grounded : reader.Grounded)
    (alsoGrounded : other.Grounded) (text : List Char) :
    (text.foldl Reader.step reader).Alike (text.foldl Reader.step other) := by
  induction text generalizing reader other with
  | nil => exact alike
  | cons c rest ih =>
      exact ih (alike.step grounded alsoGrounded c) (grounded.foldl [c]) (alsoGrounded.foldl [c])

theorem Alike.finish_foldl (alike : reader.Alike other) (grounded : reader.Grounded)
    (alsoGrounded : other.Grounded) (text : List Char) :
    (text.foldl Reader.step reader).finish = (text.foldl Reader.step other).finish :=
  (alike.foldl grounded alsoGrounded text).finish

/-! ### Marks -/

theorem token_endSegment (reader : Reader) : reader.endSegment.token = [] := reader.token_flush

theorem trimNulls_trimNulls (items : List Item) :
    trimNulls 0 (trimNulls 0 items) = trimNulls 0 items :=
  trimNulls_zero_append (settled_trimNulls_zero items) []

theorem endSegment_endSegment (reader : Reader) :
    reader.endSegment.endSegment = reader.endSegment := by
  have ended : reader.endSegment.flush = reader.endSegment :=
    flush_of_token_eq_nil reader.token_endSegment
  have kept : trimNulls reader.endSegment.floor reader.endSegment.items =
      reader.endSegment.items := trimNulls_of_length_le (Nat.le_refl _)
  rw [endSegment, ended, kept]
  rfl

theorem finish_flush (reader : Reader) : reader.flush.finish = reader.finish := by
  unfold Reader.finish
  rw [flush_of_token_eq_nil reader.token_flush]

theorem Grounded.finish_endSegment (grounded : reader.Grounded) :
    reader.endSegment.finish = reader.finish := by
  unfold Reader.finish
  rw [flush_of_token_eq_nil reader.token_endSegment, grounded.endSegment_items,
    trimNulls_trimNulls]

/-- A dash in front of a character of another kind changes nothing. -/
theorem step_dash_step (present : reader.token ≠ []) (noMark : isMark c = false)
    (otherKind : reader.tokenIsDigits ≠ Text.isAsciiDigit c) :
    (reader.step '-').step c = reader.step c := by
  change reader.endSegment.step c = reader.step c
  rw [step_of_not_mark _ noMark, step_of_not_mark _ noMark, push_of_otherKind present otherKind,
    push_of_sameKind (.inl reader.token_endSegment)]

/-- In front of a qualifier a dot ends as much as a dash does. -/
theorem Grounded.alike_step_qualifier (grounded : reader.Grounded) (noMark : isMark c = false)
    (noDigit : Text.isAsciiDigit c = false) :
    ((reader.step '.').step c).Alike ((reader.step '-').step c) := by
  change (reader.flush.step c).Alike (reader.endSegment.step c)
  rw [step_of_not_mark _ noMark, step_of_not_mark _ noMark,
    push_of_sameKind (.inl reader.token_flush), push_of_sameKind (.inl reader.token_endSegment),
    noDigit]
  refine ⟨iff_of_false (List.cons_ne_nil c _) (List.cons_ne_nil c _), fun _ => rfl, ?_⟩
  rw [items_flush_extend, items_flush_extend, if_neg Bool.false_ne_true,
    if_neg Bool.false_ne_true, grounded.endSegment_items, reader.token_flush,
    reader.token_endSegment, trimNulls_trimNulls]

/-! ### Zeros and letters -/

theorem exists_step_of_kind (reader : Reader) (isDigits : Bool) :
    ∃ ready : Reader, (reader.token = [] ∨ reader.tokenIsDigits ≠ isDigits → ready.token = []) ∧
      ∀ c, isMark c = false → Text.isAsciiDigit c = isDigits →
        reader.step c = ready.extend c isDigits := by
  by_cases sameKind : reader.token = [] ∨ reader.tokenIsDigits = isDigits
  · refine ⟨reader, ?_, ?_⟩
    · intro startsRun
      rcases startsRun with noToken | otherKind
      · exact noToken
      · exact sameKind.resolve_right otherKind
    · intro c noMark kind
      rw [← kind] at sameKind
      rw [step_of_not_mark reader noMark, push_of_sameKind sameKind, kind]
  · obtain ⟨present, otherKind⟩ := not_or.1 sameKind
    refine ⟨reader.endSegment, fun _ => reader.token_endSegment, ?_⟩
    intro c noMark kind
    rw [← kind] at otherKind
    rw [step_of_not_mark reader noMark, push_of_otherKind present otherKind, kind]

theorem alike_step_zero {digit : Char} (isDigit : Text.isAsciiDigit digit = true)
    (startsRun : reader.token = [] ∨ reader.tokenIsDigits = false) :
    (reader.step digit).Alike ((reader.step '0').step digit) := by
  obtain ⟨ready, fresh, steps⟩ := reader.exists_step_of_kind true
  have noMark := isMark_of_isAsciiDigit isDigit
  have noToken : ready.token = [] := fresh (startsRun.imp_right ne_true_of_eq_false)
  have sameKind : (ready.extend '0' true).token = [] ∨
      (ready.extend '0' true).tokenIsDigits = Text.isAsciiDigit digit := .inr isDigit.symm
  rw [steps digit noMark isDigit, steps '0' rfl rfl, step_of_not_mark _ noMark,
    push_of_sameKind sameKind, isDigit]
  refine ⟨iff_of_false (List.cons_ne_nil _ _) (List.cons_ne_nil _ _), fun _ => rfl, ?_⟩
  rw [items_flush_extend, items_flush_extend, if_pos rfl, if_pos rfl]
  unfold extend
  dsimp only
  rw [noToken]
  rfl

theorem alike_step_letter {d : Char} (isWord : isWordChar c = true)
    (alsoWord : isWordChar d = true)
    (sameLetter : Text.asciiLowerChar c = Text.asciiLowerChar d) (reader : Reader) :
    (reader.step c).Alike (reader.step d) := by
  obtain ⟨noMark, noDigit⟩ := isWordChar_iff.1 isWord
  obtain ⟨alsoNoMark, alsoNoDigit⟩ := isWordChar_iff.1 alsoWord
  obtain ⟨ready, _fresh, steps⟩ := reader.exists_step_of_kind false
  have sameText : Item.ofQualifier (ready.token.reverse ++ [c]) =
      Item.ofQualifier (ready.token.reverse ++ [d]) := by
    unfold Item.ofQualifier Text.asciiLower
    rw [List.map_append, List.map_append, List.map_singleton, List.map_singleton, sameLetter]
  rw [steps c noMark noDigit, steps d alsoNoMark alsoNoDigit]
  refine ⟨iff_of_false (List.cons_ne_nil _ _) (List.cons_ne_nil _ _), fun _ => rfl, ?_⟩
  rw [items_flush_extend, items_flush_extend, if_neg Bool.false_ne_true,
    if_neg Bool.false_ne_true, sameText]

/-! ### The reader behind a front -/

/-- Unless it has read nothing, a reader behind a front has just read its last character. -/
theorem behind_eq_empty_or (front : List Char) :
    behind front = {} ∨ ∃ (before : Reader) (last : Char), front.getLast? = some last ∧
      behind front = before.step last := by
  unfold behind
  cases nothing : (Text.trimStart front).getLast? with
  | none =>
      left
      rw [List.getLast?_eq_none_iff.1 nothing]
      rfl
  | some last =>
      right
      obtain ⟨start, split⟩ := List.getLast?_eq_some_iff.1 nothing
      obtain ⟨dropped, whole⟩ := List.dropWhile_suffix Text.isBlank (l := front)
      refine ⟨start.foldl step {}, last, ?_, ?_⟩
      · change dropped ++ Text.trimStart front = front at whole
        rw [← whole, split, ← List.append_assoc, List.getLast?_concat]
      · rw [split, List.foldl_concat]

theorem token_step_of_not_mark (reader : Reader) (noMark : isMark c = false) :
    (reader.step c).token ≠ [] ∧ (reader.step c).tokenIsDigits = Text.isAsciiDigit c := by
  obtain ⟨ready, _fresh, steps⟩ := reader.exists_step_of_kind (Text.isAsciiDigit c)
  rw [steps c noMark rfl]
  exact ⟨List.cons_ne_nil _ _, rfl⟩

theorem startsRun_step (reader : Reader) (noDigit : Text.isAsciiDigit c = false) :
    (reader.step c).token = [] ∨ (reader.step c).tokenIsDigits = false := by
  cases mark : isMark c with
  | true =>
      left
      unfold step
      split
      · exact reader.token_flush
      · split
        · exact reader.token_endSegment
        · rename_i noDot noDash
          simp only [isMark, Bool.or_eq_true, beq_iff_eq, or_assoc] at mark
          exact absurd mark (not_or.2 ⟨noDot, noDash⟩)
  | false =>
      right
      rw [(reader.token_step_of_not_mark mark).2, noDigit]

end Reader

/-! ### Changes at a place -/

section Place

variable {c digit : Char}

theorem read_dashBehindDigit (front back : List Char) (isDigit : Text.isAsciiDigit digit = true)
    (noMark : isMark c = false) (noDigit : Text.isAsciiDigit c = false) :
    read (front ++ digit :: '-' :: c :: back) = read (front ++ digit :: c :: back) := by
  have visible := isBlank_of_isAsciiDigit isDigit
  have grounded := (Reader.grounded_behind front).foldl [digit]
  have token := (Reader.behind front).token_step_of_not_mark (isMark_of_isAsciiDigit isDigit)
  rw [read_append_cons visible, read_append_cons visible, Text.trimEnd_cons_of_visible rfl]
  change ((Text.trimEnd (c :: back)).foldl Reader.step
    (((Reader.behind front).step digit).step '-')).finish = _
  rcases Text.trimEnd_cons_eq_nil_or c back with nothing | kept
  · rw [nothing]
    exact grounded.finish_endSegment
  · have otherKind : ((Reader.behind front).step digit).tokenIsDigits ≠ Text.isAsciiDigit c := by
      rw [token.2, isDigit, noDigit]
      decide
    rw [kept, List.foldl_cons, List.foldl_cons, Reader.step_dash_step token.1 noMark otherKind]

theorem read_dashBeforeDigit (front back : List Char) (noMark : isMark c = false)
    (noDigit : Text.isAsciiDigit c = false) (isDigit : Text.isAsciiDigit digit = true) :
    read (front ++ c :: '-' :: digit :: back) = read (front ++ c :: digit :: back) := by
  have visible := isBlank_of_isAsciiDigit isDigit
  have same : ((Reader.behind (front ++ [c])).step '-').step digit =
      (Reader.behind (front ++ [c])).step digit := by
    rcases Reader.behind_eq_empty_or (front ++ [c]) with nothing | ⟨before, last, isLast, reached⟩
    · rw [nothing]
      rfl
    · rw [List.getLast?_concat] at isLast
      rw [reached, ← Option.some.inj isLast]
      have token := before.token_step_of_not_mark noMark
      refine Reader.step_dash_step token.1 (isMark_of_isAsciiDigit isDigit) ?_
      rw [token.2, noDigit, isDigit]
      decide
  rw [List.append_cons front c ('-' :: digit :: back), List.append_cons front c (digit :: back),
    read_append_cons rfl, read_append_cons visible, Text.trimEnd_cons_of_visible visible,
    List.foldl_cons, same]

theorem read_dashForDot (front back : List Char) (noMark : isMark c = false)
    (noDigit : Text.isAsciiDigit c = false) :
    read (front ++ '-' :: c :: back) = read (front ++ '.' :: c :: back) := by
  have grounded := Reader.grounded_behind front
  rw [read_append_cons rfl, read_append_cons rfl]
  rcases Text.trimEnd_cons_eq_nil_or c back with nothing | kept
  · rw [nothing]
    exact grounded.finish_endSegment.trans (Reader.behind front).finish_flush.symm
  · rw [kept]
    exact ((grounded.alike_step_qualifier noMark noDigit).finish_foldl
      (grounded.foldl ['.', c]) (grounded.foldl ['-', c]) _).symm

theorem read_dashForUnderscore (front back : List Char) :
    read (front ++ '-' :: back) = read (front ++ '_' :: back) := by
  rw [read_append_cons rfl, read_append_cons rfl]
  rfl

theorem read_doubledDash (front back : List Char) :
    read (front ++ '-' :: '-' :: back) = read (front ++ '-' :: back) := by
  rw [read_append_cons rfl, read_append_cons rfl, Text.trimEnd_cons_of_visible rfl, List.foldl_cons]
  change ((Text.trimEnd back).foldl Reader.step
    (Reader.behind front).endSegment.endSegment).finish = _
  rw [Reader.endSegment_endSegment]
  rfl

theorem read_leadingZero (front back : List Char)
    (runStarts : ∀ last ∈ front.getLast?, Text.isAsciiDigit last = false)
    (isDigit : Text.isAsciiDigit digit = true) :
    read (front ++ '0' :: digit :: back) = read (front ++ digit :: back) := by
  have visible := isBlank_of_isAsciiDigit isDigit
  have grounded := Reader.grounded_behind front
  have startsRun : (Reader.behind front).token = [] ∨
      (Reader.behind front).tokenIsDigits = false := by
    rcases Reader.behind_eq_empty_or front with nothing | ⟨before, last, isLast, reached⟩
    · rw [nothing]
      exact .inl rfl
    · rw [reached]
      exact before.startsRun_step (runStarts last isLast)
  rw [read_append_cons rfl, read_append_cons visible, Text.trimEnd_cons_of_visible visible]
  exact ((Reader.alike_step_zero isDigit startsRun).finish_foldl (grounded.foldl [digit])
    (grounded.foldl ['0', digit]) _).symm

theorem isAsciiLetter_of_isCasePair {upper lower : Char} (isPair : Text.IsCasePair upper lower) :
    Text.isAsciiLetter upper = true ∧ Text.isAsciiLetter lower = true := by
  have range : 65 ≤ upper.toNat ∧ upper.toNat ≤ 90 := by
    simpa [Text.isAsciiUpper] using isPair.1
  have small := isPair.2
  rw [isAsciiLetter_iff, isAsciiLetter_iff]
  omega

theorem read_letterCase (front back : List Char) {upper lower : Char}
    (isPair : Text.IsCasePair upper lower) :
    read (front ++ upper :: back) = read (front ++ lower :: back) := by
  obtain ⟨isUpper, isLower⟩ := isAsciiLetter_of_isCasePair isPair
  have sameLetter : Text.asciiLowerChar upper = Text.asciiLowerChar lower :=
    Text.asciiLowerChar_eq_iff.2 (.inr (.inl isPair))
  have alike := Reader.alike_step_letter (isWordChar_of_isAsciiLetter isUpper)
    (isWordChar_of_isAsciiLetter isLower) sameLetter (Reader.behind front)
  have grounded := Reader.grounded_behind front
  rw [read_append_cons (isBlank_of_isAsciiLetter isUpper),
    read_append_cons (isBlank_of_isAsciiLetter isLower)]
  exact alike.finish_foldl (grounded.foldl [upper]) (grounded.foldl [lower]) _

end Place

/-! ### Spellings -/

/-- One change of the text of a version that does not change the version. -/
inductive Respells : List Char → List Char → Prop
  | dashBehindDigit (front back : List Char) {digit c : Char}
      (isDigit : Text.isAsciiDigit digit = true) (isWord : isWordChar c = true) :
      Respells (front ++ digit :: c :: back) (front ++ digit :: '-' :: c :: back)
  | dashBeforeDigit (front back : List Char) {c digit : Char}
      (isWord : isWordChar c = true) (isDigit : Text.isAsciiDigit digit = true) :
      Respells (front ++ c :: digit :: back) (front ++ c :: '-' :: digit :: back)
  | dashForDot (front back : List Char) {c : Char} (isWord : isWordChar c = true) :
      Respells (front ++ '.' :: c :: back) (front ++ '-' :: c :: back)
  | dashForUnderscore (front back : List Char) :
      Respells (front ++ '_' :: back) (front ++ '-' :: back)
  | underscoreForDash (front back : List Char) :
      Respells (front ++ '-' :: back) (front ++ '_' :: back)
  | doubledDash (front back : List Char) :
      Respells (front ++ '-' :: back) (front ++ '-' :: '-' :: back)
  | leadingZero (front back : List Char) {digit : Char}
      (runStarts : ∀ last ∈ front.getLast?, Text.isAsciiDigit last = false)
      (isDigit : Text.isAsciiDigit digit = true) :
      Respells (front ++ digit :: back) (front ++ '0' :: digit :: back)
  | lowerCase (front back : List Char) {upper lower : Char}
      (isPair : Text.IsCasePair upper lower) :
      Respells (front ++ upper :: back) (front ++ lower :: back)
  | upperCase (front back : List Char) {upper lower : Char}
      (isPair : Text.IsCasePair upper lower) :
      Respells (front ++ lower :: back) (front ++ upper :: back)
  | blanks (text : List Char) {front back : List Char} (blankFront : Text.allBlank front = true)
      (blankBack : Text.allBlank back = true) :
      Respells text (front ++ text ++ back)

theorem Respells.read_eq {text spelling : List Char} (respells : Respells text spelling) :
    read spelling = read text := by
  cases respells with
  | dashBehindDigit front back isDigit isWord =>
      obtain ⟨noMark, noDigit⟩ := isWordChar_iff.1 isWord
      exact read_dashBehindDigit front back isDigit noMark noDigit
  | dashBeforeDigit front back isWord isDigit =>
      obtain ⟨noMark, noDigit⟩ := isWordChar_iff.1 isWord
      exact read_dashBeforeDigit front back noMark noDigit isDigit
  | dashForDot front back isWord =>
      obtain ⟨noMark, noDigit⟩ := isWordChar_iff.1 isWord
      exact read_dashForDot front back noMark noDigit
  | dashForUnderscore front back => exact read_dashForUnderscore front back
  | underscoreForDash front back => exact (read_dashForUnderscore front back).symm
  | doubledDash front back => exact read_doubledDash front back
  | leadingZero front back runStarts isDigit =>
      exact read_leadingZero front back runStarts isDigit
  | lowerCase front back isPair => exact (read_letterCase front back isPair).symm
  | upperCase front back isPair => exact read_letterCase front back isPair
  | blanks text blankFront blankBack =>
      unfold read
      rw [Text.trim_append_blanks blankFront blankBack]

end ArtifactCatalog.Version

namespace ArtifactCatalog

/-- A version in another spelling is read as the same items, and so compares like the version
with every other one. -/
theorem maven_compare_respelling {version spelling : String}
    (respells : Version.Respells version.toList spelling.toList) :
    Version.read spelling.toList = Version.read version.toList ∧
      ∀ other, VersionOrder.maven.compare spelling other =
          VersionOrder.maven.compare version other ∧
        VersionOrder.maven.compare other spelling = VersionOrder.maven.compare other version := by
  have same := respells.read_eq
  refine ⟨same, ?_⟩
  intro other
  change Version.compareItems (Version.read spelling.toList) (Version.read other.toList) = _ ∧
    Version.compareItems (Version.read other.toList) (Version.read spelling.toList) = _
  rw [same]
  exact ⟨rfl, rfl⟩

theorem maven_compare_respelling_candidate :
    Version.Respells "1.0.RC1".toList "1.0-RC1".toList ∧
      Version.read "1.0-RC1".toList = Version.read "1.0.RC1".toList ∧
      ∀ other, VersionOrder.maven.compare "1.0-RC1" other =
          VersionOrder.maven.compare "1.0.RC1" other ∧
        VersionOrder.maven.compare other "1.0-RC1" =
          VersionOrder.maven.compare other "1.0.RC1" := by
  have respells : Version.Respells "1.0.RC1".toList "1.0-RC1".toList :=
    .dashForDot ['1', '.', '0'] ['C', '1'] (by decide)
  exact ⟨respells, maven_compare_respelling respells⟩

end ArtifactCatalog
