/-
What faults of settings name, and how results may fail. A fault that is seen from a group
names a place in the group, and no place that parts from it.
-/

import Mathlib.Data.List.Infix
import ArtifactCatalog.Settings.Fault

namespace ArtifactCatalog.Settings

/-! ### What faults name -/

namespace Fault

def key? : Fault → Option String
  | absent key => some key
  | wrongKind _ _ key _ => key
  | _ => none

/-- The setting that the fault names has a path that goes on from the given one. A value of
the wrong kind is named. -/
def IsWithin (path : String) : Fault → Prop
  | absent key => path.toList <+: key.toList
  | wrongKind _ _ key _ => ∃ inner, key = some inner ∧ path.toList <+: inner.toList
  | _ => True

theorem prefix_joinKey (outer : String) (key : Option String) :
    outer.toList <+: (joinKey outer key).toList := by
  cases key with
  | none => exact List.prefix_rfl
  | some inner =>
      unfold joinKey
      dsimp only
      split
      · exact String.toList_append ▸ List.prefix_append _ _
      · rw [String.toList_append, String.toList_append, List.append_assoc]
        exact List.prefix_append _ _

theorem isWithin_under (outer : String) (fault : Fault) : (fault.under outer).IsWithin outer := by
  cases fault with
  | absent key => exact prefix_joinKey outer (some key)
  | wrongKind found wanted key origin => exact ⟨_, rfl, prefix_joinKey outer key⟩
  | _ => trivial

theorem prefix_joinKey_some {inner key : String} (named : inner.toList.head?.any (· != '['))
    (within : inner.toList <+: key.toList) (outer : String) :
    (outer ++ "." ++ inner).toList <+: (joinKey outer (some key)).toList := by
  obtain ⟨rest, isKey⟩ := within
  have notPlace : ¬ key.startsWith "[" := by
    rw [String.startsWith_string_iff, ← isKey]
    cases first : inner.toList with
    | nil => rw [first] at named; cases named
    | cons c later =>
        rw [first] at named
        have differs : c ≠ '[' := by simpa using named
        rw [List.cons_append, show "[".toList = ['['] from rfl, List.cons_prefix_cons]
        exact fun same => differs same.1.symm
  unfold joinKey
  dsimp only
  rw [if_neg notPlace]
  simp only [String.toList_append, ← isKey]
  exact (List.prefix_append_right_inj _).2 (List.prefix_append _ _)

theorem IsWithin.under {inner : String} {fault : Fault} (within : fault.IsWithin inner)
    (named : inner.toList.head?.any (· != '[')) (outer : String) :
    (fault.under outer).IsWithin (outer ++ "." ++ inner) := by
  cases fault with
  | absent key => exact prefix_joinKey_some named within outer
  | wrongKind found wanted key origin =>
      obtain ⟨key, rfl, within⟩ := within
      exact ⟨_, rfl, prefix_joinKey_some named within outer⟩
  | _ => trivial

theorem IsWithin.key?_ne {path key : String} {fault : Fault} (within : fault.IsWithin path)
    (apart : ¬ path.toList <+: key.toList) : fault.key? ≠ some key := by
  cases fault with
  | absent other =>
      rintro ⟨⟩
      exact apart within
  | wrongKind found wanted other origin =>
      obtain ⟨inner, rfl, within⟩ := within
      rintro ⟨⟩
      exact apart within
  | _ => nofun

end Fault

/-- A result that is there or fails with one of some faults. -/
def FailsOnly {α : Type} (allowed : Fault → Prop) (result : Except Fault α) : Prop :=
  ∀ fault, result = .error fault → allowed fault

section Results

variable {α β : Type} {allowed : Fault → Prop}

theorem failsOnly_pure (a : α) : FailsOnly allowed (pure a) := by
  intro fault isFault
  cases isFault

theorem FailsOnly.mono {wider : Fault → Prop} {result : Except Fault α}
    (only : FailsOnly allowed result) (widens : ∀ fault, allowed fault → wider fault) :
    FailsOnly wider result :=
  fun fault isFault => widens fault (only fault isFault)

theorem FailsOnly.bind {result : Except Fault α} {next : α → Except Fault β}
    (first : FailsOnly allowed result) (later : ∀ a, FailsOnly allowed (next a)) :
    FailsOnly allowed (result >>= next) := by
  cases result with
  | error fault =>
      rintro _ ⟨⟩
      exact first fault rfl
  | ok a => exact later a

theorem FailsOnly.map {result : Except Fault α} (only : FailsOnly allowed result) (f : α → β) :
    FailsOnly allowed (result.map f) :=
  FailsOnly.bind only fun a => failsOnly_pure (f a)

theorem failsOnly_mapError {result : Except Fault α} {change : Fault → Fault}
    (only : FailsOnly (fun fault => allowed (change fault)) result) :
    FailsOnly allowed (result.mapError change) := by
  cases result with
  | error fault =>
      rintro _ ⟨⟩
      exact only fault rfl
  | ok a => exact failsOnly_pure a

theorem isOk_pure (a : α) : (pure a : Except Fault α).isOk = true :=
  rfl

theorem isOk_bind_iff {result : Except Fault α} {next : α → Except Fault β} :
    (result >>= next).isOk = true ↔ ∃ a, result = .ok a ∧ (next a).isOk = true := by
  cases result with
  | error fault => simp [Bind.bind, Except.bind, Except.isOk, Except.toBool]
  | ok a => simp [Bind.bind, Except.bind]

theorem exists_eq_ok_iff {result : Except Fault α} :
    (∃ a, result = .ok a) ↔ result.isOk = true := by
  cases result with
  | error fault => simp [Except.isOk, Except.toBool]
  | ok a => simp [Except.isOk, Except.toBool]

theorem isOk_map (result : Except Fault α) (f : α → β) : (result.map f).isOk = result.isOk := by
  cases result <;> rfl

theorem isOk_mapError (result : Except Fault α) (f : Fault → Fault) :
    (result.mapError f).isOk = result.isOk := by
  cases result <;> rfl

end Results

end ArtifactCatalog.Settings
