/-
What a suffix does to a version, whatever the version ends in. A word behind a dash stands to
the version as it stands to the release, and a number behind a dot or a dash as it stands to
zero. Two numbers behind the same version compare by value.
-/

import ArtifactCatalog.Proofs.Version.DashSuffix

namespace ArtifactCatalog.Version

/-! ### Suffixes that are read as one item -/

/-- A run is the last item of a text where no other item is unfinished in front of it. -/
theorem finish_foldl_run {reader : Reader} {isDigits : Bool} {run : List Char}
    (isRun : IsRun isDigits run) (fresh : reader.token = []) :
    (run.foldl Reader.step reader).finish =
      (trimNulls 0 (if isDigits then Item.ofDigits run :: reader.items
        else Item.ofQualifier run :: trimNulls 0 reader.items)).reverse := by
  unfold Reader.finish
  rw [Reader.flush_foldl_run isRun fresh]

theorem compareItems_trimmed_nil (item : Item) :
    compareItems (trimNulls 0 [item]).reverse [] = item.compareToAbsent := by
  rw [trimNulls_zero]
  cases null : item.isNull with
  | true =>
      rw [List.dropWhile_cons_of_pos null, compareToAbsent_of_isNull null]
      simp [compareItems]
  | false =>
      rw [List.dropWhile_cons_of_neg (ne_true_of_eq_false null)]
      simp [compareItems]

/-! ### Words -/

structure IsWord (word : List Char) : Prop where
  isRun : IsRun false word
  visible : ∀ c ∈ word, Text.isBlank c = false

def wordsBeforeRelease : List String :=
  ["alpha", "a", "beta", "b", "milestone", "m", "rc", "cr", "snapshot"]

def wordsOfRelease : List String := ["ga", "final", "release"]

def wordStanding (word : String) : Ordering :=
  if word ∈ wordsBeforeRelease then .lt
  else if word ∈ wordsOfRelease then .eq
  else .gt

theorem compare_qualifierRank_eq_wordStanding {word : List Char} (nonempty : word ≠ []) :
    compare (qualifierRank word) releaseRank = wordStanding (String.ofList word) := by
  unfold qualifierRank
  cases found : rankedQualifiers.find? fun entry => entry.1.toList == word with
  | some entry =>
      obtain ⟨name, rank⟩ := entry
      have isRanked := List.mem_of_find?_eq_some found
      have isFound := List.find?_some found
      have same : name.toList = word := beq_iff_eq.1 isFound
      have listed : ∀ entry ∈ rankedQualifiers, entry.1 ≠ "" →
          compare entry.2 releaseRank = wordStanding entry.1 := by decide
      have named : name ≠ "" := by
        intro isEmpty
        rw [isEmpty] at same
        exact nonempty same.symm
      rw [← same, String.ofList_toList]
      exact listed (name, rank) isRanked named
  | none =>
      have unranked (name : String) (isListed : name ∈ wordsBeforeRelease ++ wordsOfRelease) :
          String.ofList word ≠ name := by
        intro same
        have ranked : ∀ name ∈ wordsBeforeRelease ++ wordsOfRelease,
            ∃ entry ∈ rankedQualifiers, entry.1 = name := by decide
        obtain ⟨entry, isRanked, isName⟩ := ranked name isListed
        apply List.find?_eq_none.1 found entry isRanked
        rw [isName, ← same, String.toList_ofList, beq_self_eq_true]
      have notBefore : String.ofList word ∉ wordsBeforeRelease := fun member =>
        unranked _ (List.mem_append_left _ member) rfl
      have notRelease : String.ofList word ∉ wordsOfRelease := fun member =>
        unranked _ (List.mem_append_right _ member) rfl
      unfold wordStanding
      rw [if_neg notBefore, if_neg notRelease]
      rfl

theorem read_dash_word {word : List Char} (isWord : IsWord word) :
    read ('-' :: word) = (trimNulls 0 [Item.ofQualifier word]).reverse := by
  have alone : read ('-' :: word) =
      ((Text.trimEnd word).foldl Reader.step (Reader.step {} '-')).finish :=
    read_append_cons rfl [] word
  rw [alone, Text.trimEnd_eq_self isWord.visible, finish_foldl_run isWord.isRun rfl]
  rfl

/-! ### Numbers -/

/-- A number at the end of a version, behind null items that it keeps from being dropped. -/
def numberBehind (nulls : List Item) (n : Nat) : List Item :=
  if n = 0 then [] else nulls ++ [Item.ofNat n]

theorem trimNulls_ofNat_cons (n : Nat) (items : List Item) :
    (trimNulls 0 (Item.ofNat n :: items)).reverse =
      (trimNulls 0 items).reverse ++ numberBehind (items.takeWhile Item.isNull).reverse n := by
  unfold numberBehind
  rw [trimNulls_zero, trimNulls_zero]
  by_cases zero : n = 0
  · have null : (Item.ofNat n).isNull = true := by
      rw [isNull_ofNat, zero]
      rfl
    rw [List.dropWhile_cons_of_pos null, if_pos zero, List.append_nil]
  · have set : ¬ (Item.ofNat n).isNull = true := by
      rw [isNull_ofNat, beq_iff_eq]
      exact zero
    rw [List.dropWhile_cons_of_neg set, if_neg zero, List.reverse_cons, ← List.append_assoc,
      ← List.reverse_append, List.takeWhile_append_dropWhile]

/-- A number behind a mark is added to what the version in front is read as. -/
def AddsNumbers (version : List Char) (mark : Char) : Prop :=
  ∃ nulls, (∀ item ∈ nulls, item.isNull = true) ∧
    ∀ run, Number.isDigitRun run = true →
      read (version ++ mark :: run) = read version ++ numberBehind nulls (Number.ofDigits run)

theorem finish_foldl_digits {reader : Reader} {run : List Char}
    (digits : Number.isDigitRun run = true) (fresh : reader.token = []) :
    ((Text.trimEnd run).foldl Reader.step reader).finish =
      (trimNulls 0 reader.items).reverse ++
        numberBehind (reader.items.takeWhile Item.isNull).reverse (Number.ofDigits run) := by
  have visible (c : Char) (member : c ∈ run) : Text.isBlank c = false :=
    isBlank_of_isAsciiDigit ((isDigitRun_iff.1 digits).2 c member)
  rw [Text.trimEnd_eq_self visible, finish_foldl_run (isRun_of_isDigitRun digits) fresh, if_pos rfl,
    ofDigits_eq_ofNat digits, trimNulls_ofNat_cons]

variable {version : List Char}

/-- The null items that a version loses at its end come back in front of a number. -/
theorem addsNumbers_dot (noBlankAtEnd : ∀ last ∈ version.getLast?, Text.isBlank last = false) :
    AddsNumbers version '.' := by
  refine ⟨((Reader.behind version).flush.items.takeWhile Item.isNull).reverse, ?_, ?_⟩
  · intro item member
    exact List.mem_takeWhile_imp (List.mem_reverse.1 member)
  · intro run digits
    rw [read_append_cons (by decide), read_eq_finish_behind noBlankAtEnd]
    exact finish_foldl_digits digits (Reader.token_flush _)

theorem addsNumbers_dash (noBlankAtEnd : ∀ last ∈ version.getLast?, Text.isBlank last = false) :
    AddsNumbers version '-' := by
  refine ⟨[], fun item member => absurd member List.not_mem_nil, ?_⟩
  intro run digits
  have alone : read ('-' :: run) =
      ((Text.trimEnd run).foldl Reader.step (Reader.step {} '-')).finish :=
    read_append_cons rfl [] run
  rw [read_append_dash noBlankAtEnd, alone, finish_foldl_digits digits rfl]
  rfl

theorem compareItems_append_nil {nulls : List Item} (allNull : ∀ item ∈ nulls, item.isNull = true)
    (items : List Item) : compareItems (nulls ++ items) [] = compareItems items [] := by
  induction nulls with
  | nil => rfl
  | cons item rest ih =>
      rw [List.forall_mem_cons] at allNull
      rw [List.cons_append, compareItems, compareToAbsent_of_isNull allNull.1, ih allNull.2]
      rfl

theorem compareItems_numberBehind_nil {nulls : List Item}
    (allNull : ∀ item ∈ nulls, item.isNull = true) (n : Nat) :
    compareItems (numberBehind nulls n) [] = compare n 0 := by
  unfold numberBehind
  by_cases zero : n = 0
  · rw [if_pos zero, zero, compareItems]
    rfl
  · rw [if_neg zero, compareItems_append_nil allNull, compareItems, compareToAbsent_ofNat,
      compareItems, Ordering.then_eq]

theorem compareItems_numberBehind {nulls : List Item}
    (allNull : ∀ item ∈ nulls, item.isNull = true) (m n : Nat) :
    compareItems (numberBehind nulls m) (numberBehind nulls n) = compare m n := by
  by_cases noneRight : n = 0
  · rw [noneRight]
    exact compareItems_numberBehind_nil allNull m
  · by_cases noneLeft : m = 0
    · rw [noneLeft]
      change compareItems [] (numberBehind nulls n) = compare 0 n
      rw [compareItems_nil_swap, compareItems_numberBehind_nil allNull]
      exact Std.OrientedOrd.eq_swap.symm
    · unfold numberBehind
      rw [if_neg noneLeft, if_neg noneRight, compareItems_append_left, compareItems,
        compare_ofNat, compareItems, Ordering.then_eq]

theorem ofDigits_eq_zero_iff {run : List Char} (digits : Number.isDigitRun run = true) :
    Number.ofDigits run = 0 ↔ run.all (· == '0') = true := by
  have sameZeros := dropZeros_eq_significantDigits (isDigitRun_iff.1 digits).2
  have isEmpty := isEmpty_significantDigits (Number.ofDigits run)
  rw [← sameZeros] at isEmpty
  rw [← beq_iff_eq, ← isEmpty, List.isEmpty_iff, List.dropWhile_eq_nil_iff, List.all_eq_true]

theorem compareItems_append_self (shared items : List Item) :
    compareItems (shared ++ items) shared = compareItems items [] := by
  have common := compareItems_append_left shared items []
  rw [List.append_nil] at common
  exact common

theorem AddsNumbers.compareItems_self {mark : Char} (adds : AddsNumbers version mark)
    {run : List Char} (digits : Number.isDigitRun run = true) :
    compareItems (read (version ++ mark :: run)) (read version) =
      if run.all (· == '0') then .eq else .gt := by
  obtain ⟨nulls, allNull, reads⟩ := adds
  rw [reads run digits, compareItems_append_self, compareItems_numberBehind_nil allNull]
  simp only [← ofDigits_eq_zero_iff digits]
  rcases Nat.eq_zero_or_pos (Number.ofDigits run) with zero | positive
  · rw [if_pos zero, zero]
    rfl
  · rw [if_neg (Nat.ne_of_gt positive), Nat.compare_eq_gt.2 positive]

theorem AddsNumbers.compareItems {mark : Char} (adds : AddsNumbers version mark)
    {run other : List Char} (digits : Number.isDigitRun run = true)
    (alsoDigits : Number.isDigitRun other = true) :
    compareItems (read (version ++ mark :: run)) (read (version ++ mark :: other)) =
      compare (Number.ofDigits run) (Number.ofDigits other) := by
  obtain ⟨nulls, allNull, reads⟩ := adds
  rw [reads run digits, reads other alsoDigits, compareItems_append_left,
    compareItems_numberBehind allNull]

/-! ### Suffixes -/

structure SuffixLaw (order : VersionOrder) (version : String) : Prop where
  word : ∀ word : String, IsWord word.toList →
    order.compare (version ++ "-" ++ word) version =
      compare (qualifierRank (Text.asciiLower word.toList)) releaseRank
  standing : ∀ word : String, IsWord word.toList →
    order.compare (version ++ "-" ++ word) version =
      wordStanding (String.ofList (Text.asciiLower word.toList))
  number : ∀ mark, mark = '.' ∨ mark = '-' → ∀ run : String, Number.isDigitRun run.toList = true →
    order.compare (version ++ mark.toString ++ run) version =
      if run.toList.all (· == '0') then .eq else .gt
  numbers : ∀ mark, mark = '.' ∨ mark = '-' → ∀ run other : String,
    Number.isDigitRun run.toList = true → Number.isDigitRun other.toList = true →
      order.compare (version ++ mark.toString ++ run) (version ++ mark.toString ++ other) =
        compare (Number.ofDigits run.toList) (Number.ofDigits other.toList)

end ArtifactCatalog.Version

namespace ArtifactCatalog

open Version

theorem toList_append_mark (version suffix : String) (mark : Char) :
    (version ++ mark.toString ++ suffix).toList = version.toList ++ mark :: suffix.toList := by
  rw [String.toList_append, String.toList_append, Char.toString, String.toList_singleton,
    List.append_assoc, List.singleton_append]

theorem maven_compare_dash_word {version word : String}
    (noBlankAtEnd : ∀ last ∈ version.toList.getLast?, Text.isBlank last = false)
    (isWord : IsWord word.toList) :
    VersionOrder.maven.compare (version ++ "-" ++ word) version =
      compare (qualifierRank (Text.asciiLower word.toList)) releaseRank := by
  change compareItems (read (version ++ Char.toString '-' ++ word).toList) (read version.toList) = _
  rw [toList_append_mark, read_append_dash noBlankAtEnd, read_dash_word isWord,
    compareItems_append_self, compareItems_trimmed_nil]
  rfl

/-- A word behind a dash stands to the version in front as it stands to the release, and a
number behind a dot or a dash as it stands to zero; two numbers compare by value. -/
theorem maven_compare_suffix {version : String}
    (noBlankAtEnd : ∀ last ∈ version.toList.getLast?, Text.isBlank last = false) :
    SuffixLaw .maven version := by
  have adds (mark : Char) (isMark : mark = '.' ∨ mark = '-') : AddsNumbers version.toList mark := by
    rcases isMark with dot | dash
    · rw [dot]
      exact addsNumbers_dot noBlankAtEnd
    · rw [dash]
      exact addsNumbers_dash noBlankAtEnd
  refine ⟨fun word => maven_compare_dash_word noBlankAtEnd, ?_, ?_, ?_⟩
  · intro word isWord
    have nonempty : Text.asciiLower word.toList ≠ [] := fun nothing =>
      isWord.isRun.nonempty (List.map_eq_nil_iff.1 nothing)
    rw [maven_compare_dash_word noBlankAtEnd isWord,
      compare_qualifierRank_eq_wordStanding nonempty]
  · intro mark isMark run digits
    change compareItems (read (version ++ mark.toString ++ run).toList) (read version.toList) = _
    rw [toList_append_mark]
    exact (adds mark isMark).compareItems_self digits
  · intro mark isMark run other digits alsoDigits
    change compareItems (read (version ++ mark.toString ++ run).toList)
      (read (version ++ mark.toString ++ other).toList) = _
    rw [toList_append_mark, toList_append_mark]
    exact (adds mark isMark).compareItems digits alsoDigits

theorem maven_compare_suffix_zeroRelease :
    (∀ last ∈ "1.0.Final.0-".toList.getLast?, Text.isBlank last = false) ∧
      SuffixLaw .maven "1.0.Final.0-" := by
  have noBlankAtEnd : ∀ last ∈ "1.0.Final.0-".toList.getLast?, Text.isBlank last = false := by
    intro last isLast
    obtain rfl : '-' = last := Option.some.inj isLast
    rfl
  exact ⟨noBlankAtEnd, maven_compare_suffix noBlankAtEnd⟩

end ArtifactCatalog
