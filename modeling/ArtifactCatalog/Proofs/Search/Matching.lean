/-
What a query looks for. An entry is found by a query when its repository is
observed and the trimmed query, in lower case, occurs in the lower-case form of
one of its texts. A blank query finds nothing.
-/

import ArtifactCatalog.Search.Index
import Mathlib.Data.List.TakeWhile

namespace ArtifactCatalog

/-! ### Texts -/

namespace Text

theorem occursIn_iff_infix (needle text : List Char) :
    occursIn needle text = true ↔ needle <:+: text := by
  induction text with
  | nil =>
      unfold occursIn
      rw [List.isEmpty_iff, List.infix_nil]
  | cons c rest ih =>
      unfold occursIn
      rw [Bool.or_eq_true, List.isPrefixOf_iff_prefix, ih, List.infix_cons_iff]

theorem lowerChar_ne_nil (c : Char) : lowerChar c ≠ [] := by
  unfold lowerChar
  split
  · exact List.cons_ne_nil _ _
  · split
    · exact List.cons_ne_nil _ _
    · split
      · exact List.cons_ne_nil _ _
      · exact List.cons_ne_nil _ _

theorem lower_eq_nil_iff (text : List Char) : lower text = [] ↔ text = [] := by
  cases text with
  | nil => exact Iff.rfl
  | cons c rest =>
      refine ⟨fun impossible => absurd impossible ?_, fun impossible => absurd impossible ?_⟩
      · unfold lower lowerAfter
        split
        · exact List.cons_ne_nil _ _
        · exact List.append_ne_nil_of_left_ne_nil (lowerChar_ne_nil c) _
      · exact List.cons_ne_nil _ _

theorem stripWhile_eq_nil_iff (p : Char → Bool) (text : List Char) :
    stripWhile p text = [] ↔ ∀ c ∈ text, p c = true := by
  unfold stripWhile dropEndWhile
  rw [List.reverse_eq_nil_iff, List.dropWhile_eq_nil_iff]
  constructor
  · intro tail c member
    rw [← List.takeWhile_append_dropWhile (p := p) (l := text), List.mem_append] at member
    rcases member with front | back
    · exact List.mem_takeWhile_imp front
    · exact tail c (List.mem_reverse.2 back)
  · intro all c member
    exact all c ((List.dropWhile_suffix p).subset (List.mem_reverse.1 member))

theorem trim_eq_nil_iff (text : List Char) : trim text = [] ↔ allBlank text = true := by
  unfold trim allBlank
  rw [stripWhile_eq_nil_iff, List.all_eq_true]

end Text

/-! ### Entries -/

def IndexEntry.Mentions (entry : IndexEntry) (needle : List Char) : Prop :=
  needle <:+: Text.lower entry.release.group.toList ∨
    needle <:+: Text.lower entry.release.artifact.toList ∨
      ∃ className ∈ entry.classNames, needle <:+: Text.lower className.toList

theorem hasText_iff_mentions (entry : IndexEntry) (needle : List Char) :
    entry.hasText needle = true ↔ entry.Mentions needle := by
  unfold IndexEntry.hasText occursIgnoringCase IndexEntry.Mentions
  simp only [Bool.or_eq_true, List.any_eq_true, Text.occursIn_iff_infix, or_assoc]

instance (entry : IndexEntry) (needle : List Char) : Decidable (entry.Mentions needle) :=
  decidable_of_iff (entry.hasText needle = true) (hasText_iff_mentions entry needle)

/-- The query is not blank, and the entry mentions it in an observed repository. -/
def IndexEntry.FoundBy (query : String) (observed : List String) (entry : IndexEntry) : Prop :=
  entry.repository ∈ observed ∧ Text.allBlank query.toList = false ∧
    entry.Mentions (SearchIndex.needle query)

instance (query : String) (observed : List String) (entry : IndexEntry) :
    Decidable (entry.FoundBy query observed) :=
  inferInstanceAs (Decidable (_ ∧ _ ∧ _))

namespace SearchIndex

theorem isEmpty_needle (query : String) : (needle query).isEmpty = Text.allBlank query.toList := by
  rw [Bool.eq_iff_iff, List.isEmpty_iff]
  unfold needle
  rw [Text.lower_eq_nil_iff, Text.trim_eq_nil_iff]

end SearchIndex

end ArtifactCatalog
