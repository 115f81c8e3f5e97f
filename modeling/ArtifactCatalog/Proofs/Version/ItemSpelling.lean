/-
The items that version texts are read as. Their last item is not null, no qualifier stands
right behind a null item, and each item has one spelling. These are all the lists of this
form: every one of them is what some text is read as.
-/

import ArtifactCatalog.Proofs.Version.Respelling

namespace ArtifactCatalog.Version

/-- A number has digits without a zero in front, and a qualifier has characters other than
digits, marks and capital letters. -/
def Item.IsSpelled : Item → Prop
  | .number digits => (∀ c ∈ digits, Text.isAsciiDigit c = true) ∧ digits.head? ≠ some '0'
  | .qualifier text =>
      text ≠ [] ∧ ∀ c ∈ text, isMark c = false ∧ Text.isAsciiDigit c = false ∧
        Text.isAsciiUpper c = false

/-- What stands behind a null item: maybe more null items, and then a number above zero. -/
def LeadsToNumber (items : List Item) : Prop :=
  ∃ nulls digits later, items = nulls ++ .number digits :: later ∧
    (∀ item ∈ nulls, item.isNull = true) ∧ digits ≠ []

structure NormalForm (items : List Item) : Prop extends NormalItems items where
  behindNull : ∀ before item after, items = before ++ item :: after → item.isNull = true →
    LeadsToNumber after
  spelled : ∀ item ∈ items, item.IsSpelled

/-! ### Behind null items -/

theorem NormalItems.of_append {before after : List Item} (normal : NormalItems (before ++ after)) :
    NormalItems after := by
  induction before with
  | nil => exact normal
  | cons item before ih => exact ih normal.tail

theorem NormalItems.leadsToNumber {item : Item} {rest : List Item}
    (normal : NormalItems (item :: rest)) (null : item.isNull = true) : LeadsToNumber rest := by
  induction rest generalizing item with
  | nil =>
      have set := normal.lastIsSet item rfl
      rw [null] at set
      cases set
  | cons next rest ih =>
      have isNumber : next.isNumber = true := (List.isChain_cons_cons.1 normal.chain).1 null
      cases next with
      | qualifier text => cases isNumber
      | number digits =>
          by_cases zero : digits = []
          · subst zero
            obtain ⟨nulls, digits, later, rfl, allNull, above⟩ := ih normal.tail rfl
            refine ⟨.number [] :: nulls, digits, later, rfl, ?_, above⟩
            exact List.forall_mem_cons.2 ⟨rfl, allNull⟩
          · exact ⟨[], digits, rest, rfl, fun _ absent => absurd absent List.not_mem_nil, zero⟩

/-! ### The reader spells its items -/

theorem isSpelled_ofDigits {run : List Char} (isRun : IsRun true run) :
    (Item.ofDigits run).IsSpelled := by
  constructor
  · intro c member
    exact (isRun.each c ((List.dropWhile_sublist _).subset member)).2
  · intro zeroFirst
    have stopped := List.head?_dropWhile_not (· == '0') run
    rw [zeroFirst] at stopped
    cases stopped

theorem kinds_asciiLowerChar {c : Char} (isWord : isWordChar c = true) :
    isMark (Text.asciiLowerChar c) = false ∧ Text.isAsciiDigit (Text.asciiLowerChar c) = false ∧
      Text.isAsciiUpper (Text.asciiLowerChar c) = false := by
  rw [isWordChar_iff, isMark_eq_false_iff] at isWord
  rw [isMark_eq_false_iff, Text.toNat_asciiLowerChar]
  simp only [Text.isAsciiDigit, Text.isAsciiUpper, Text.toNat_asciiLowerChar, Bool.and_eq_true,
    Bool.and_eq_false_iff, decide_eq_true_eq, decide_eq_false_iff_not] at isWord ⊢
  split <;> omega

theorem isSpelled_ofQualifier {run : List Char} (isRun : IsRun false run) :
    (Item.ofQualifier run).IsSpelled := by
  refine ⟨fun nothing => isRun.nonempty (List.map_eq_nil_iff.1 nothing), ?_⟩
  intro lower member
  obtain ⟨c, isChar, rfl⟩ := List.mem_map.1 member
  exact kinds_asciiLowerChar (isWordChar_iff.2 (isRun.each c isChar))

structure Reader.Spells (reader : Reader) : Prop where
  items : ∀ item ∈ reader.items, item.IsSpelled
  token : ∀ c ∈ reader.token, isMark c = false ∧ Text.isAsciiDigit c = reader.tokenIsDigits

theorem Reader.spells_initial : Reader.Spells {} where
  items _ absent := absurd absent List.not_mem_nil
  token _ absent := absurd absent List.not_mem_nil

theorem Reader.Spells.flush {reader : Reader} (spells : reader.Spells) : reader.flush.Spells := by
  refine ⟨?_, ?_⟩
  · unfold Reader.flush
    by_cases absent : reader.token.isEmpty = true
    · rw [if_pos absent]
      exact spells.items
    · have isRun : IsRun reader.tokenIsDigits reader.token.reverse := by
        refine ⟨?_, fun c member => spells.token c (List.mem_reverse.1 member)⟩
        exact fun nothing => absent (List.isEmpty_iff.2 (List.reverse_eq_nil_iff.1 nothing))
      rw [if_neg absent]
      cases digits : reader.tokenIsDigits with
      | true =>
          rw [digits] at isRun
          exact List.forall_mem_cons.2 ⟨isSpelled_ofDigits isRun, spells.items⟩
      | false =>
          rw [digits] at isRun
          refine List.forall_mem_cons.2 ⟨isSpelled_ofQualifier isRun, ?_⟩
          intro item member
          exact spells.items item ((trimNulls_suffix 0 reader.items).subset member)
  · rw [reader.token_flush]
    intro c absent
    cases absent

theorem Reader.Spells.endSegment {reader : Reader} (spells : reader.Spells) :
    reader.endSegment.Spells where
  items item member := spells.flush.items item ((trimNulls_suffix _ _).subset member)
  token := spells.flush.token

theorem Reader.Spells.push {reader : Reader} {c : Char} (spells : reader.Spells)
    (noMark : isMark c = false) : (reader.push c).Spells := by
  by_cases sameKind : reader.token = [] ∨ reader.tokenIsDigits = Text.isAsciiDigit c
  · rw [Reader.push_of_sameKind sameKind]
    refine ⟨spells.items, List.forall_mem_cons.2 ⟨⟨noMark, rfl⟩, ?_⟩⟩
    intro d member
    have kind := spells.token d member
    rcases sameKind with nothing | same
    · rw [nothing] at member
      cases member
    · rw [same] at kind
      exact kind
  · obtain ⟨present, otherKind⟩ := not_or.1 sameKind
    rw [Reader.push_of_otherKind present otherKind]
    refine ⟨spells.endSegment.items, List.forall_mem_cons.2 ⟨⟨noMark, rfl⟩, ?_⟩⟩
    rw [reader.token_endSegment]
    intro d absent
    cases absent

theorem Reader.Spells.step {reader : Reader} (spells : reader.Spells) (c : Char) :
    (reader.step c).Spells := by
  cases mark : isMark c with
  | false =>
      rw [Reader.step_of_not_mark reader mark]
      exact spells.push mark
  | true =>
      unfold Reader.step
      split
      · exact spells.flush
      · split
        · exact spells.endSegment
        · rename_i noDot noDash
          simp only [isMark, Bool.or_eq_true, beq_iff_eq, or_assoc] at mark
          exact absurd mark (not_or.2 ⟨noDot, noDash⟩)

theorem Reader.Spells.foldl {reader : Reader} (spells : reader.Spells) (text : List Char) :
    (text.foldl Reader.step reader).Spells := by
  induction text generalizing reader with
  | nil => exact spells
  | cons c text ih => exact ih (spells.step c)

theorem isSpelled_of_mem_read {version : List Char} {item : Item} (member : item ∈ read version) :
    item.IsSpelled := by
  have final := (Reader.spells_initial.foldl (Text.trim version)).flush
  unfold read Reader.finish at member
  rw [List.mem_reverse] at member
  exact final.items item ((trimNulls_suffix 0 _).subset member)

theorem normalForm_read (version : List Char) : NormalForm (read version) where
  toNormalItems := read_normalItems version
  behindNull before item after split null := by
    have normal := read_normalItems version
    rw [split] at normal
    exact normal.of_append.leadsToNumber null
  spelled _item member := isSpelled_of_mem_read member

/-! ### Texts for items -/

/-- A text of an item: the zero in front of a number stands for the number zero as well. -/
def Item.text : Item → List Char
  | .number digits => '0' :: digits
  | .qualifier text => text

/-- A text for items. The marks at its ends keep blanks of qualifiers from being cut. -/
def textOf (items : List Item) : List Char :=
  '.' :: items.flatMap fun item => item.text ++ ['.']

theorem dropZeros_eq_self {digits : List Char} (noZero : digits.head? ≠ some '0') :
    digits.dropWhile (· == '0') = digits := by
  cases digits with
  | nil => rfl
  | cons c digits =>
      refine List.dropWhile_cons_of_neg ?_
      intro zero
      rw [beq_iff_eq.1 zero] at noZero
      exact noZero rfl

/-- A reader takes the text of an item as the item, if a qualifier does not meet null items. -/
theorem Reader.items_flush_foldl_text {reader : Reader} {item : Item} (spelled : item.IsSpelled)
    (fresh : reader.token = []) (allowed : item.isNumber = true ∨ Settled reader.items) :
    (item.text.foldl Reader.step reader).flush.items = item :: reader.items := by
  cases item with
  | number digits =>
      have isRun : IsRun true ('0' :: digits) := by
        refine ⟨List.cons_ne_nil _ _, List.forall_mem_cons.2 ⟨⟨rfl, rfl⟩, ?_⟩⟩
        intro c member
        exact ⟨isMark_of_isAsciiDigit (spelled.1 c member), spelled.1 c member⟩
      have number : Item.ofDigits ('0' :: digits) = .number digits :=
        congrArg Item.number (dropZeros_eq_self spelled.2)
      rw [Item.text, Reader.flush_foldl_run isRun fresh, if_pos rfl, number]
  | qualifier text =>
      have isRun : IsRun false text :=
        ⟨spelled.1, fun c member => ⟨(spelled.2 c member).1, (spelled.2 c member).2.1⟩⟩
      have qualifier : Item.ofQualifier text = .qualifier text :=
        congrArg Item.qualifier (Text.asciiLower_eq_self fun c member => (spelled.2 c member).2.2)
      have settled : Settled reader.items := allowed.resolve_left Bool.false_ne_true
      have kept : trimNulls 0 reader.items = reader.items := trimNulls_zero_append settled []
      rw [Item.text, Reader.flush_foldl_run isRun fresh, if_neg Bool.false_ne_true, qualifier, kept]

theorem isNumber_or_settled {items rest : List Item} {item : Item}
    (chain : (items.reverse ++ item :: rest).IsChain Item.AllowsNext) :
    item.isNumber = true ∨ Settled items := by
  cases kind : item.isNumber with
  | true => exact .inl rfl
  | false =>
      right
      intro latest atHead
      rw [← List.getLast?_reverse] at atHead
      have allows := (List.isChain_append.1 chain).2.2 latest atHead item rfl
      unfold Item.AllowsNext at allows
      rw [kind] at allows
      exact Bool.eq_false_iff.2 fun null => Bool.false_ne_true (allows null)

theorem Reader.foldl_texts {reader : Reader} {items : List Item}
    (spelled : ∀ item ∈ items, item.IsSpelled) (fresh : reader.token = [])
    (chain : (reader.items.reverse ++ items).IsChain Item.AllowsNext) :
    ((items.flatMap fun item => item.text ++ ['.']).foldl Reader.step reader).token = [] ∧
      ((items.flatMap fun item => item.text ++ ['.']).foldl Reader.step reader).items =
        items.reverse ++ reader.items := by
  induction items generalizing reader with
  | nil => exact ⟨fresh, rfl⟩
  | cons item rest ih =>
      rw [List.forall_mem_cons] at spelled
      have taken := Reader.items_flush_foldl_text spelled.1 fresh (isNumber_or_settled chain)
      rw [List.flatMap_cons, List.foldl_append, List.foldl_append]
      have next := ih spelled.2 (Reader.token_flush (item.text.foldl Reader.step reader)) (by
        rw [taken, List.reverse_cons, List.append_assoc]
        exact chain)
      rw [taken] at next
      rw [List.reverse_cons, List.append_assoc]
      exact next

theorem getLast?_textOf (items : List Item) : (textOf items).getLast? = some '.' := by
  unfold textOf
  rcases List.eq_nil_or_concat' items with rfl | ⟨front, item, rfl⟩
  · rfl
  · rw [List.flatMap_append, List.flatMap_singleton, ← List.append_assoc, ← List.cons_append,
      List.getLast?_concat]

theorem trim_textOf (items : List Item) : Text.trim (textOf items) = textOf items := by
  apply Text.stripWhile_eq_self
  · intro c isFirst
    rw [← Option.some.inj isFirst]
    rfl
  · intro c isLast
    rw [getLast?_textOf] at isLast
    rw [← Option.some.inj isLast]
    rfl

theorem NormalForm.read_textOf {items : List Item} (form : NormalForm items) :
    read (textOf items) = items := by
  obtain ⟨ended, taken⟩ := @Reader.foldl_texts {} items form.spelled rfl form.chain
  have settled : Settled items.reverse := by
    intro latest atHead
    rw [List.head?_reverse] at atHead
    exact form.lastIsSet latest atHead
  have kept : trimNulls 0 items.reverse = items.reverse := trimNulls_zero_append settled []
  unfold read
  rw [trim_textOf]
  change ((items.flatMap fun item => item.text ++ ['.']).foldl Reader.step {}).finish = items
  unfold Reader.finish
  rw [Reader.flush_of_token_eq_nil ended, taken, List.append_nil, kept, List.reverse_reverse]

end ArtifactCatalog.Version

namespace ArtifactCatalog

/-- Every text is read as items in normal form, and every list in normal form is read from
some text. -/
theorem version_read_normalForm :
    (∀ version : String, Version.NormalForm (Version.read version.toList)) ∧
      ∀ items, Version.NormalForm items →
        ∃ version : String, Version.read version.toList = items := by
  refine ⟨fun version => Version.normalForm_read version.toList, ?_⟩
  intro items form
  refine ⟨String.ofList (Version.textOf items), ?_⟩
  rw [String.toList_ofList]
  exact form.read_textOf

theorem version_read_normalForm_patchedCandidate :
    Version.NormalForm (Version.read "1.0.2-RC".toList) ∧
      ∃ version : String, Version.read version.toList =
        [.number ['1'], .number [], .number ['2'], .qualifier ['r', 'c']] := by
  have form := version_read_normalForm.1 "1.0.2-RC"
  have items : Version.read "1.0.2-RC".toList =
      [.number ['1'], .number [], .number ['2'], .qualifier ['r', 'c']] := by
    decide
  refine ⟨form, version_read_normalForm.2 _ ?_⟩
  rw [← items]
  exact form

end ArtifactCatalog
