/-
Values that are read back from their JSON form. A record is read back when each
of its fields is found under its name, as the field was written or left out, and
is read back itself.
-/

import ArtifactCatalog.Json.Form

namespace ArtifactCatalog

namespace JsonForm

variable {α : Type} [JsonForm α]

/-- Reading what is written for the value gives the value. -/
def ReadsBack (value : α) : Prop := read? (write value) = some value

theorem readsBack_text (text : String) : ReadsBack text := rfl

theorem readsBack_flag (flag : Bool) : ReadsBack flag := rfl

theorem readBelow_of_lt {limit n : Nat} (below : n < limit) :
    readBelow limit (.integer n) = some n := by
  rw [readBelow, if_pos ⟨Int.natCast_nonneg n, Int.ofNat_lt.2 below⟩, Int.toNat_natCast]

theorem readsBack_word64 (n : UInt64) : ReadsBack n := by
  change (readBelow UInt64.size (.integer n.toNat)).map UInt64.ofNat = some n
  rw [readBelow_of_lt n.toNat_lt, Option.map_some, UInt64.ofNat_toNat]

theorem readsBack_word32 (n : UInt32) : ReadsBack n := by
  change (readBelow UInt32.size (.integer n.toNat)).map UInt32.ofNat = some n
  rw [readBelow_of_lt n.toNat_lt, Option.map_some, UInt32.ofNat_toNat]

theorem readsBack_list {items : List α} (each : ∀ item ∈ items, ReadsBack item) :
    ReadsBack items := by
  change readItems (items.map write) = some items
  induction items with
  | nil => rfl
  | cons item rest ih =>
      have first : read? (write item) = some item := each item List.mem_cons_self
      rw [List.map_cons, readItems, first, ih fun other member =>
        each other (List.mem_cons_of_mem item member)]
      rfl

/-- An optional value is read back unless its text is the one of absence. -/
theorem readsBack_option {value : Option α}
    (present : ∀ inner, value = some inner → ReadsBack inner ∧ write inner ≠ .null) :
    ReadsBack value := by
  cases value with
  | none => rfl
  | some inner =>
      obtain ⟨back, visible⟩ := present inner rfl
      change read? (α := Option α) (write inner) = some (some inner)
      unfold ReadsBack at back
      cases written : write inner with
      | null => exact absurd written visible
      | _ =>
          rw [written] at back
          change (read? _).map some = _
          rw [back, Option.map_some]

end JsonForm

open JsonForm

/-! ### Fields by name -/

section Lookup

variable {α : Type} [JsonForm α] {name other : String}

theorem Json.lookup_singleton (value : Json) :
    [(name, value)].lookup other = if other == name then some value else none := by
  rw [List.lookup_cons, List.lookup_nil]
  cases other == name <;> rfl

@[simp] theorem Json.lookup_field (value : α) :
    (Json.field name value).lookup other = if other == name then some (write value) else none :=
  Json.lookup_singleton (write value)

@[simp] theorem Json.lookup_fieldIfPresent (value : Option α) :
    (Json.fieldIfPresent name value).lookup other =
      if other == name then value.map write else none := by
  cases value with
  | none => exact ite_self none |>.symm
  | some value => exact Json.lookup_singleton (write value)

@[simp] theorem Json.lookup_fieldIfNonempty (values : List α) :
    (Json.fieldIfNonempty name values).lookup other =
      if other == name then (if values.isEmpty then none else some (write values)) else none := by
  cases values with
  | nil => exact ite_self none |>.symm
  | cons value rest => exact Json.lookup_singleton (write (value :: rest))

end Lookup

namespace FieldReader

theorem next?_named (name : String) (fields : List (String × Json)) :
    next? name (.named fields) = (fields.lookup name, .named fields) := rfl

/-- From the named fields the reader takes the value. -/
def Yields {α : Type} (fields : List (String × Json)) (reader : FieldReader α) (value : α) : Prop :=
  reader (.named fields) = some (value, .named fields)

namespace Yields

variable {α β : Type} {fields : List (String × Json)} {name : String}

theorem pure (value : α) : Yields fields (Pure.pure value) value := rfl

theorem bind {reader : FieldReader α} {next : α → FieldReader β} {value : α} {result : β}
    (first : Yields fields reader value) (second : Yields fields (next value) result) :
    Yields fields (reader >>= next) result := by
  unfold Yields at first second ⊢
  change FieldReader.bind reader next (.named fields) = _
  rw [FieldReader.bind, first]
  exact second

variable [JsonForm α] {value : α}

theorem required (present : fields.lookup name = some (write value)) (back : ReadsBack value) :
    Yields fields (FieldReader.required name) value := by
  unfold Yields FieldReader.required
  rw [next?_named, present]
  exact congrArg (Option.map (·, FieldSource.named fields)) back

theorem defaulted (present : fields.lookup name = some (write value)) (back : ReadsBack value)
    (standard : α) : Yields fields (FieldReader.defaulted name standard) value := by
  unfold Yields FieldReader.defaulted
  rw [next?_named, present]
  exact congrArg (Option.map (·, FieldSource.named fields)) back

theorem standard (missing : fields.lookup name = none) :
    Yields fields (FieldReader.defaulted name value) value := by
  unfold Yields FieldReader.defaulted
  rw [next?_named, missing]

theorem nullable {value : Option α} (present : fields.lookup name = some (write value))
    (back : ReadsBack value) : Yields fields (FieldReader.nullable name) value := by
  unfold Yields FieldReader.nullable
  rw [next?_named, present]
  exact congrArg (Option.map (·, FieldSource.named fields)) back

theorem ifPresent {value : Option α} (present : fields.lookup name = value.map write)
    (back : ReadsBack value) : Yields fields (FieldReader.defaulted name none) value := by
  cases value with
  | none => exact standard present
  | some inner =>
      have written : fields.lookup name = some (write (some inner)) := present
      exact defaulted written back none

theorem ifNonempty {values : List α}
    (present : fields.lookup name = if values.isEmpty then none else some (write values))
    (back : ReadsBack values) : Yields fields (FieldReader.defaulted name []) values := by
  cases values with
  | nil => exact standard present
  | cons first rest => exact defaulted present back []

end Yields

theorem readRecord_object {α : Type} {fields : List (String × Json)} {reader : FieldReader α}
    {value : α} (yields : Yields fields reader value) :
    Json.readRecord reader (.object fields) = some value := by
  unfold Json.readRecord FieldSource.of? FieldReader.run
  rw [Option.bind_some, yields]

end FieldReader

end ArtifactCatalog
