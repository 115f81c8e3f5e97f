/-
The order of texts by code point is the order of their UTF-8 bytes. A character
takes the digits of its code point to base 64, the first of them in a byte whose
range grows with the number of bytes behind it. So characters of one length
compare by their digits, and those of different lengths by their first bytes.
-/

import ArtifactCatalog.Text.Order
import ArtifactCatalog.Text.Utf8
import Mathlib.Algebra.Group.Nat.Defs
import Mathlib.Tactic.SplitIfs

namespace ArtifactCatalog.Text

/-! ### Bytes of one character -/

/-- The bytes of a code point with `count` bytes behind the first one, to whose
digits `lead` is added. -/
def pointBytes (lead : Nat) : Nat → Nat → List UInt8
  | 0, point => [UInt8.ofNat (point + lead)]
  | count + 1, point => pointBytes lead count (point / 64) ++ [UInt8.ofNat (point % 64 + 128)]

/-- The number of bytes behind the first one, and what marks the first. -/
def pointShape (point : Nat) : Nat × Nat :=
  if point ≤ 127 then (0, 0)
  else if point ≤ 2047 then (1, 192)
  else if point ≤ 65535 then (2, 224)
  else (3, 240)

theorem ofNat_lt_ofNat {m n : Nat} (below : m < n) (small : n < 256) :
    UInt8.ofNat m < UInt8.ofNat n := by
  rw [UInt8.lt_iff_toNat_lt, UInt8.toNat_ofNat', UInt8.toNat_ofNat']
  omega

/-- Digits are compared from the first one on, so the induction is on their number and
the last digit decides only where all others agree. -/
theorem pointBytes_lt {lead count m n : Nat} (below : m < n)
    (small : n / 64 ^ count + lead < 256) (s t : List UInt8) :
    pointBytes lead count m ++ s < pointBytes lead count n ++ t := by
  induction count generalizing m n s t with
  | zero =>
      rw [Nat.pow_zero, Nat.div_one] at small
      exact List.cons_lt_cons_iff.2 (.inl (ofNat_lt_ofNat (by omega) small))
  | succ count ih =>
      unfold pointBytes
      rw [List.append_assoc, List.append_assoc]
      by_cases same : m / 64 = n / 64
      · rw [same]
        apply List.append_left_lt
        exact List.cons_lt_cons_iff.2 (.inl (ofNat_lt_ofNat (by omega) (by omega)))
      · apply ih (by omega)
        rw [Nat.div_div_eq_div_mul, ← Nat.pow_succ']
        exact small

theorem pointBytes_eq_cons (lead count point : Nat) :
    ∃ rest, pointBytes lead count point = UInt8.ofNat (point / 64 ^ count + lead) :: rest := by
  induction count generalizing point with
  | zero =>
      rw [Nat.pow_zero, Nat.div_one]
      exact ⟨[], rfl⟩
  | succ count ih =>
      obtain ⟨rest, first⟩ := ih (point / 64)
      unfold pointBytes
      rw [first, Nat.div_div_eq_div_mul, ← Nat.pow_succ']
      exact ⟨rest ++ [UInt8.ofNat (point % 64 + 128)], rfl⟩

theorem toNat_lt (c : Char) : c.toNat < 0x110000 := by
  rcases c.valid with low | high
  · exact Nat.lt_trans low (by decide)
  · exact high.2

theorem utf8EncodeChar_eq_pointBytes (c : Char) :
    String.utf8EncodeChar c =
      pointBytes (pointShape c.toNat).2 (pointShape c.toNat).1 c.toNat := by
  have bounded := toNat_lt c
  have asPoint : c.val.toNat = c.toNat := rfl
  unfold String.utf8EncodeChar pointShape
  rw [asPoint]
  generalize c.toNat = point at bounded ⊢
  dsimp only
  split
  · rfl
  split
  · rw [Nat.mod_eq_of_lt (by omega : point / 64 < 32)]
    rfl
  split
  · rw [Nat.mod_eq_of_lt (by omega : point / 4096 < 16)]
    simp [pointBytes, Nat.div_div_eq_div_mul]
  · rw [Nat.mod_eq_of_lt (by omega : point / 262144 < 8)]
    simp [pointBytes, Nat.div_div_eq_div_mul]

theorem pointShape_lt {m n : Nat} (below : m < n) (bounded : n < 0x110000) :
    n / 64 ^ (pointShape n).1 + (pointShape n).2 < 256 ∧
      (pointShape m = pointShape n ∨
        m / 64 ^ (pointShape m).1 + (pointShape m).2 <
          n / 64 ^ (pointShape n).1 + (pointShape n).2) := by
  unfold pointShape
  split_ifs <;> simp <;> omega

theorem utf8EncodeChar_lt {c d : Char} (below : c.toNat < d.toNat) (s t : List UInt8) :
    String.utf8EncodeChar c ++ s < String.utf8EncodeChar d ++ t := by
  obtain ⟨small, sameLength | longer⟩ := pointShape_lt below (toNat_lt d)
  · rw [utf8EncodeChar_eq_pointBytes, utf8EncodeChar_eq_pointBytes, sameLength]
    exact pointBytes_lt below small s t
  · rw [utf8EncodeChar_eq_pointBytes, utf8EncodeChar_eq_pointBytes]
    obtain ⟨_, first⟩ := pointBytes_eq_cons (pointShape c.toNat).2 (pointShape c.toNat).1 c.toNat
    obtain ⟨_, second⟩ := pointBytes_eq_cons (pointShape d.toNat).2 (pointShape d.toNat).1 d.toNat
    rw [first, second]
    exact List.cons_lt_cons_iff.2 (.inl (ofNat_lt_ofNat longer small))

/-! ### Bytes of a text -/

def charBytes (text : List Char) : List UInt8 := text.flatMap String.utf8EncodeChar

theorem toList_loop (bytes : ByteArray) (place : Nat) (before : List UInt8) :
    ByteArray.toList.loop bytes place before = before.reverse ++ bytes.data.toList.drop place := by
  fun_induction ByteArray.toList.loop bytes place before with
  | case1 place before within ih =>
      have inList : place < bytes.data.toList.length := within
      have atPlace : bytes.get! place = bytes.data.toList[place] :=
        getElem!_pos bytes.data place within
      rw [ih, List.drop_eq_getElem_cons inList, List.reverse_cons, List.append_assoc,
        List.singleton_append, atPlace]
  | case2 place before outside =>
      rw [List.drop_eq_nil_of_le (Nat.le_of_not_lt outside), List.append_nil]

theorem bytesOf_eq_charBytes (s : String) : Utf8.bytesOf s = charBytes s.toList := by
  unfold Utf8.bytesOf ByteArray.toList
  rw [toList_loop, ← @String.ofList_toList s, String.toUTF8_eq_toByteArray,
    String.toByteArray_ofList, String.toList_ofList]
  exact List.toList_data_toByteArray

theorem nil_lt_charBytes_cons (c : Char) (text : List Char) : [] < charBytes (c :: text) := by
  obtain ⟨rest, first⟩ := pointBytes_eq_cons (pointShape c.toNat).2 (pointShape c.toNat).1 c.toNat
  unfold charBytes
  rw [List.flatMap_cons, utf8EncodeChar_eq_pointBytes, first]
  exact List.nil_lt_cons _ _

theorem compareText_spec (s t : List Char) :
    match compareText s t with
    | .lt => charBytes s < charBytes t
    | .eq => s = t
    | .gt => charBytes t < charBytes s := by
  induction s generalizing t with
  | nil =>
      cases t with
      | nil => rfl
      | cons d t => exact nil_lt_charBytes_cons d t
  | cons c s ih =>
      cases t with
      | nil => exact nil_lt_charBytes_cons c s
      | cons d t =>
          unfold compareText charBytes
          rw [List.flatMap_cons, List.flatMap_cons]
          rcases Nat.lt_trichotomy c.toNat d.toNat with below | same | above
          · rw [Nat.compare_eq_lt.2 below]
            exact utf8EncodeChar_lt below _ _
          · have sameChar : c = d := Char.toNat_inj.1 same
            subst sameChar
            rw [Nat.compare_eq_eq.2 rfl, Ordering.eq_then]
            have later := ih t
            cases compared : compareText s t with
            | lt =>
                rw [compared] at later
                exact List.append_left_lt later
            | eq =>
                rw [compared] at later
                exact congrArg (c :: ·) later
            | gt =>
                rw [compared] at later
                exact List.append_left_lt later
          · rw [Nat.compare_eq_gt.2 above]
            exact utf8EncodeChar_lt above _ _

theorem bytesOf_injective : Function.Injective Utf8.bytesOf := by
  intro a b same
  have compared := compareText_spec a.toList b.toList
  rw [← bytesOf_eq_charBytes, ← bytesOf_eq_charBytes, same] at compared
  cases outcome : compareText a.toList b.toList with
  | lt =>
      rw [outcome] at compared
      exact absurd compared (List.lt_irrefl _)
  | eq =>
      rw [outcome] at compared
      exact String.toList_injective compared
  | gt =>
      rw [outcome] at compared
      exact absurd compared (List.lt_irrefl _)

theorem compareStrings_isLE_iff (a b : String) :
    (compareStrings a b).isLE = true ↔ Utf8.bytesOf a ≤ Utf8.bytesOf b := by
  have compared := compareText_spec a.toList b.toList
  rw [← bytesOf_eq_charBytes, ← bytesOf_eq_charBytes] at compared
  unfold compareStrings
  cases outcome : compareText a.toList b.toList with
  | lt =>
      rw [outcome] at compared
      exact iff_of_true rfl (List.le_of_lt compared)
  | eq =>
      rw [outcome] at compared
      rw [String.toList_injective compared]
      exact iff_of_true rfl (List.le_refl _)
  | gt =>
      rw [outcome] at compared
      exact iff_of_false Bool.false_ne_true (fun le => List.lt_irrefl _ (List.lt_of_le_of_lt le compared))

end ArtifactCatalog.Text
