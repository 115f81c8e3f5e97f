/-
Groups of settings read from tables. A reader takes each setting from what the table has under
its name, so it reads only some names: tables that agree on these read alike, and what is wrong
is named by one of them.
-/

import ArtifactCatalog.Proofs.Settings.FaultPaths
import ArtifactCatalog.Settings.Reading

namespace ArtifactCatalog.Settings

variable {α β : Type}

/-! ### One setting -/

def settingOf (name : String) (read : Value → Except Fault α) (standard : α) :
    Option Value → Except Fault α
  | some value => (read value).mapError (Fault.under name)
  | none => .ok standard

section Setting

variable {name : String} {read : Value → Except Fault α} {allowed : Fault → Prop}

theorem failsOnly_settingOf_some {value : Value}
    (inside : FailsOnly (fun fault => allowed (fault.under name)) (read value)) (standard : α) :
    FailsOnly allowed (settingOf name read standard (some value)) :=
  failsOnly_mapError inside

theorem failsOnly_settingOf (outside : ∀ fault, fault.IsWithin name → allowed fault)
    (read : Value → Except Fault α) (standard : α) (found : Option Value) :
    FailsOnly allowed (settingOf name read standard found) := by
  cases found with
  | none => exact failsOnly_pure standard
  | some value =>
      refine failsOnly_settingOf_some (fun fault _ => ?_) standard
      exact outside _ (fault.isWithin_under name)

theorem settingOf_some_eq_map {change : α → α} {value other : Value}
    (changed : read value = change <$> read other) (name : String) (standard : α) :
    settingOf name read standard (some value) =
      change <$> settingOf name read standard (some other) := by
  unfold settingOf
  dsimp only
  rw [changed]
  cases read other <;> rfl

theorem isOk_settingOf_some (value : Value) (standard : α) :
    (settingOf name read standard (some value)).isOk = (read value).isOk :=
  isOk_mapError (read value) (Fault.under name)

end Setting

/-! ### One setting after the other -/

def readNamed (reader : GroupReader α) (entries : List (String × Value)) : Except Fault α :=
  (reader (.named entries)).map (·.1)

theorem readGroup_table (kind : String) (reader : GroupReader α) (origin : Option Origin)
    (entries : List (String × Value)) :
    readGroup kind reader (.table origin entries) = readNamed reader entries :=
  rfl

theorem readNamed_pure (a : α) (entries : List (String × Value)) :
    readNamed (pure a) entries = pure a :=
  rfl

theorem readNamed_map (f : α → β) (reader : GroupReader α) (entries : List (String × Value)) :
    readNamed (f <$> reader) entries = f <$> readNamed reader entries := by
  simp only [readNamed, Functor.map, StateT.map, bind]
  cases reader (.named entries) <;> rfl

theorem readNamed_setting_bind (name : String) (read : Value → Except Fault α) (standard : α)
    (next : α → GroupReader β) (entries : List (String × Value)) :
    readNamed (setting name read standard >>= next) entries =
      settingOf name read standard (entries.lookup name) >>= fun a =>
        readNamed (next a) entries := by
  simp only [readNamed, bind, StateT.bind, setting, settingOf]
  cases entries.lookup name with
  | none => rfl
  | some value =>
      dsimp only
      cases read value <;> rfl

/-! ### Readers of some names -/

/-- The reader takes nothing from tables but what they have under some names. -/
structure ReadsOnly (names : List String) (reader : GroupReader α) : Prop where
  congr : ∀ {entries others : List (String × Value)},
    (∀ name ∈ names, entries.lookup name = others.lookup name) →
    readNamed reader entries = readNamed reader others
  failsOnly : ∀ entries, FailsOnly (fun fault => ∃ name ∈ names, fault.IsWithin name)
    (readNamed reader entries)

theorem readsOnly_pure (a : α) : ReadsOnly [] (pure a) where
  congr _ := rfl
  failsOnly _ := failsOnly_pure a

theorem readsOnly_setting_bind {names : List String} {next : α → GroupReader β}
    (later : ∀ a, ReadsOnly names (next a)) (name : String) (read : Value → Except Fault α)
    (standard : α) : ReadsOnly (name :: names) (setting name read standard >>= next) where
  congr same := by
    obtain ⟨sameFirst, sameLater⟩ := List.forall_mem_cons.1 same
    rw [readNamed_setting_bind, readNamed_setting_bind, sameFirst]
    exact bind_congr fun a => (later a).congr sameLater
  failsOnly entries := by
    rw [readNamed_setting_bind]
    refine FailsOnly.bind ?_ fun a => ?_
    · exact failsOnly_settingOf (fun _ within => ⟨name, List.mem_cons_self, within⟩) _ _ _
    · refine ((later a).failsOnly entries).mono fun _ => ?_
      rintro ⟨other, isLater, within⟩
      exact ⟨other, List.mem_cons_of_mem _ isLater, within⟩

end ArtifactCatalog.Settings
