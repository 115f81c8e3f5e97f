/-
The order of versions of numbers alone: place by place as numbers of any size, and
a version with fewer numbers is continued by zeros.
-/

import ArtifactCatalog.Proofs.Version.DottedNumbers

namespace ArtifactCatalog.Version

/-! ### Lists continued by zeros -/

/-- Compares at the first place that differs, after zeros have been added to the
shorter list up to the length of the longer one. -/
def comparePadded (left right : List Nat) : Ordering :=
  let places := max left.length right.length
  compare (left.rightpad places 0) (right.rightpad places 0)

theorem rightpad_succ_nil (places : Nat) :
    ([] : List Nat).rightpad (places + 1) 0 = 0 :: ([] : List Nat).rightpad places 0 := rfl

theorem rightpad_succ_cons (places n : Nat) (rest : List Nat) :
    (n :: rest).rightpad (places + 1) 0 = n :: rest.rightpad places 0 := by
  unfold List.rightpad
  rw [List.length_cons, Nat.add_sub_add_right, List.cons_append]

theorem rightpad_significant {places : Nat} {numbers : List Nat}
    (enough : numbers.length ≤ places) :
    (significant numbers).rightpad places 0 = numbers.rightpad places 0 := by
  have allZero : numbers.rtakeWhile (· == 0) =
      List.replicate (numbers.rtakeWhile (· == 0)).length 0 := by
    apply List.eq_replicate_of_mem
    intro n member
    have isZero := List.mem_rtakeWhile_imp member
    exact beq_iff_eq.1 isZero
  have split : significant numbers ++ numbers.rtakeWhile (· == 0) = numbers :=
    List.rdropWhile_append_rtakeWhile
  generalize numbers.rtakeWhile (· == 0) = zeros at allZero split
  have lengths := congrArg List.length split
  rw [List.length_append] at lengths
  have missing : places - (significant numbers).length =
      zeros.length + (places - numbers.length) := by omega
  unfold List.rightpad
  rw [missing, ← List.replicate_append_replicate, ← List.append_assoc, ← allZero, split]

theorem compareItems_map_ofNat {places : Nat} {left right : List Nat}
    (leftFits : left.length ≤ places) (rightFits : right.length ≤ places) :
    compareItems (left.map Item.ofNat) (right.map Item.ofNat) =
      compare (left.rightpad places 0) (right.rightpad places 0) := by
  induction places generalizing left right with
  | zero =>
      rw [List.length_eq_zero_iff.1 (Nat.le_zero.1 leftFits),
        List.length_eq_zero_iff.1 (Nat.le_zero.1 rightFits), List.map_nil, compareItems]
      rfl
  | succ places ih =>
      cases left with
      | nil =>
          cases right with
          | nil => rw [List.map_nil, compareItems, Std.ReflOrd.compare_self]
          | cons b right =>
              have rest : compareItems [] (right.map Item.ofNat) = _ :=
                @ih [] right (Nat.zero_le places) (Nat.le_of_succ_le_succ rightFits)
              rw [List.map_nil, List.map_cons, compareItems, compareToAbsent_ofNat, rest,
                rightpad_succ_nil, rightpad_succ_cons, List.compare_cons_cons,
                ← Std.OrientedOrd.eq_swap]
      | cons a left =>
          cases right with
          | nil =>
              have rest : compareItems (left.map Item.ofNat) [] = _ :=
                @ih left [] (Nat.le_of_succ_le_succ leftFits) (Nat.zero_le places)
              rw [List.map_nil, List.map_cons, compareItems, compareToAbsent_ofNat, rest,
                rightpad_succ_nil, rightpad_succ_cons, List.compare_cons_cons]
          | cons b right =>
              rw [List.map_cons, List.map_cons, compareItems, compare_ofNat,
                ih (Nat.le_of_succ_le_succ leftFits) (Nat.le_of_succ_le_succ rightFits),
                rightpad_succ_cons, rightpad_succ_cons, List.compare_cons_cons]

end ArtifactCatalog.Version

namespace ArtifactCatalog

/-- Versions of numbers alone compare like their lists of numbers, the shorter one
continued by zeros. -/
theorem maven_compare_dotted (v w : Version.DottedVersion) :
    VersionOrder.maven.compare v.text w.text = Version.comparePadded v.numbers w.numbers := by
  have shorter (numbers : List Nat) : (Version.significant numbers).length ≤ numbers.length :=
    (List.rdropWhile_prefix _ numbers).length_le
  have leftFits := Nat.le_max_left v.numbers.length w.numbers.length
  have rightFits := Nat.le_max_right v.numbers.length w.numbers.length
  change Version.compareItems (Version.read v.text.toList) (Version.read w.text.toList) = _
  rw [v.read_text, w.read_text,
    Version.compareItems_map_ofNat ((shorter _).trans leftFits) ((shorter _).trans rightFits),
    Version.rightpad_significant leftFits, Version.rightpad_significant rightFits]
  rfl

end ArtifactCatalog
