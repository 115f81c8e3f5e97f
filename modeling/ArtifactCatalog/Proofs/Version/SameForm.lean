/-
Versions that compare as equal. They are read as lists of equal length whose items
agree place by place: an absent item never stands for one that is there.
-/

import ArtifactCatalog.Proofs.Text.Spelling
import ArtifactCatalog.Proofs.Version.Preorder
import Mathlib.Data.List.DropRight

namespace ArtifactCatalog.Version

/-! ### Items of one form -/

/-- Numbers with the same digits behind their leading zeros, and qualifiers of one rank;
qualifiers without a meaning of their own also have the same text in lower case. -/
def Item.Alike : Item → Item → Prop
  | .number digits, .number others =>
      digits.dropWhile (· == '0') = others.dropWhile (· == '0')
  | .qualifier text, .qualifier other =>
      qualifierRank text = qualifierRank other ∧
        (qualifierRank text = unknownRank → Text.asciiLower text = Text.asciiLower other)
  | _, _ => False

def Item.IsReduced : Item → Prop
  | .number digits => digits.dropWhile (· == '0') = digits
  | .qualifier text => Text.asciiLower text = text

theorem Item.isReduced_ofDigits (run : List Char) : (Item.ofDigits run).IsReduced :=
  List.dropWhile_idempotent _ run

theorem Item.isReduced_ofQualifier (text : List Char) : (Item.ofQualifier text).IsReduced := by
  change (text.map Text.asciiLowerChar).map Text.asciiLowerChar = text.map Text.asciiLowerChar
  rw [List.map_map]
  apply List.map_congr_left
  intro c _member
  apply Text.asciiLowerChar_eq_iff.2
  cases upper : Text.isAsciiUpper c with
  | true => exact Or.inr (Or.inr ⟨upper, by rw [Text.toNat_asciiLowerChar, if_pos upper]⟩)
  | false => exact Or.inl (if_neg (ne_true_of_eq_false upper))

def Reader.Reduced (reader : Reader) : Prop := ∀ item ∈ reader.items, item.IsReduced

theorem Reader.Reduced.flush {reader : Reader} (reduced : reader.Reduced) :
    reader.flush.Reduced := by
  unfold Reader.flush
  by_cases absent : reader.token.isEmpty = true
  · rw [if_pos absent]
    exact reduced
  · rw [if_neg absent]
    intro item member
    cases digits : reader.tokenIsDigits with
    | true =>
        simp only [digits, if_pos] at member
        rcases List.mem_cons.1 member with rfl | earlier
        · exact Item.isReduced_ofDigits _
        · exact reduced item earlier
    | false =>
        simp only [digits] at member
        rcases List.mem_cons.1 member with rfl | earlier
        · exact Item.isReduced_ofQualifier _
        · exact reduced item ((trimNulls_suffix 0 reader.items).subset earlier)

theorem Reader.Reduced.endSegment {reader : Reader} (reduced : reader.Reduced) :
    reader.endSegment.Reduced := by
  intro item member
  exact reduced.flush item ((trimNulls_suffix _ _).subset member)

theorem isReduced_of_mem_read {version : List Char} {item : Item} (member : item ∈ read version) :
    item.IsReduced := by
  have initial : Reader.Reduced {} := fun _ absent => absurd absent List.not_mem_nil
  have final := Reader.foldl_keeps Reader.Reduced (fun _ => Reader.Reduced.flush)
    (fun _ => Reader.Reduced.endSegment) (fun _ _ _ unchanged => unchanged) initial
    (Text.trim version)
  unfold read Reader.finish at member
  rw [List.mem_reverse] at member
  exact final.flush item ((trimNulls_suffix 0 _).subset member)

/-! ### Items of one standing -/

theorem codePoints_injective : Function.Injective codePoints :=
  List.map_injective_iff.2 fun _ _ => Char.toNat_inj.1

theorem Item.standing_eq_iff_alike {a b : Item} (reducedA : a.IsReduced) (reducedB : b.IsReduced) :
    a.standing = b.standing ↔ a.Alike b := by
  cases a with
  | number digits =>
      cases b with
      | number others =>
          unfold Item.IsReduced at reducedA reducedB
          simp only [Item.standing, Item.Alike, reducedA, reducedB, List.cons.injEq, true_and,
            codePoints_injective.eq_iff]
          constructor
          · exact And.right
          · intro same
            exact ⟨congrArg List.length same, same⟩
      | qualifier text =>
          have bounded := qualifierRank_le text
          simp only [Item.standing, Item.Alike, List.cons.injEq, iff_false]
          omega
  | qualifier text =>
      cases b with
      | number digits =>
          have bounded := qualifierRank_le text
          simp only [Item.standing, Item.Alike, List.cons.injEq, iff_false]
          omega
      | qualifier other =>
          unfold Item.IsReduced at reducedA reducedB
          simp only [Item.standing, Item.Alike, reducedA, reducedB, List.cons.injEq,
            Nat.mul_left_cancel_iff (show 0 < 2 by decide)]
          apply and_congr_right
          intro sameRank
          rw [← sameRank]
          by_cases unknown : qualifierRank text = unknownRank
          · rw [if_pos unknown, if_pos unknown, codePoints_injective.eq_iff]
            exact ⟨fun same _ => same, fun same => same unknown⟩
          · rw [if_neg unknown, if_neg unknown]
            exact iff_of_true rfl fun isUnknown => absurd isUnknown unknown

theorem standings_eq_iff_forall₂ {left right : List Item}
    (reducedLeft : ∀ item ∈ left, item.IsReduced) (reducedRight : ∀ item ∈ right, item.IsReduced) :
    standings left = standings right ↔ List.Forall₂ Item.Alike left right := by
  unfold standings
  rw [List.append_left_inj]
  induction left generalizing right with
  | nil => rw [List.map_nil, List.forall₂_nil_left_iff, eq_comm, List.map_eq_nil_iff]
  | cons a left ih =>
      cases right with
      | nil => simp
      | cons b right =>
          rw [List.forall_mem_cons] at reducedLeft reducedRight
          rw [List.map_cons, List.map_cons, List.cons.injEq, List.forall₂_cons,
            Item.standing_eq_iff_alike reducedLeft.1 reducedRight.1,
            ih reducedLeft.2 reducedRight.2]

end ArtifactCatalog.Version

namespace ArtifactCatalog

/-- Two versions are equal in the order of releases exactly if they are read as items of
one form, place by place; lists of different length are never equal. -/
theorem maven_compare_eq_iff (a b : String) :
    VersionOrder.maven.compare a b = .eq ↔
      (Version.read a.toList).length = (Version.read b.toList).length ∧
      List.Forall₂ Version.Item.Alike (Version.read a.toList) (Version.read b.toList) := by
  have reduced (version : List Char) : ∀ item ∈ Version.read version, item.IsReduced :=
    fun _ => Version.isReduced_of_mem_read
  have places := Version.standings_eq_iff_forall₂ (reduced a.toList) (reduced b.toList)
  rw [maven_compare_eq_compare_versionStandings, Std.compare_eq_iff_eq]
  constructor
  · intro same
    have alike := places.1 same
    exact ⟨alike.length_eq, alike⟩
  · intro alike
    exact places.2 alike.2

end ArtifactCatalog
