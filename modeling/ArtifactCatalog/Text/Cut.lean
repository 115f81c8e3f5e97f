/-
Cutting and joining texts: at the first or last place of a character, after a
known start, before a known end, and the test whether one text occurs in
another.
-/

namespace ArtifactCatalog.Text

def replaceChar (old new : Char) (s : List Char) : List Char :=
  s.map fun c => if c = old then new else c

def cutFirst (mark : Char) : List Char → Option (List Char × List Char)
  | [] => none
  | c :: rest =>
    if c = mark then some ([], rest)
    else (cutFirst mark rest).map fun (before, after) => (c :: before, after)

def cutLast (mark : Char) : List Char → Option (List Char × List Char)
  | [] => none
  | c :: rest =>
    match cutLast mark rest with
    | some (before, after) => some (c :: before, after)
    | none => if c = mark then some ([], rest) else none

/-- What follows `start` in a text that begins with it. -/
def afterStart? : List Char → List Char → Option (List Char)
  | [], s => some s
  | _ :: _, [] => none
  | c :: start, d :: s => if c = d then afterStart? start s else none

/-- What precedes `ending` in a text that ends with it. -/
def beforeEnd? (ending s : List Char) : Option (List Char) :=
  (afterStart? ending.reverse s.reverse).map List.reverse

def occursIn (needle : List Char) : List Char → Bool
  | [] => needle.isEmpty
  | c :: rest => needle.isPrefixOf (c :: rest) || occursIn needle rest

/-- Replaces every occurrence of `old` by `new`, from the left, without
looking into what was written. An empty `old` is left alone. -/
def replaceAll (old new : List Char) (s : List Char) : List Char :=
  go s 0
where
  /-- Skips `pending` characters that belong to an occurrence already replaced. -/
  go : List Char → Nat → List Char
    | [], _ => []
    | _ :: rest, pending + 1 => go rest pending
    | c :: rest, 0 =>
      if !old.isEmpty && old.isPrefixOf (c :: rest) then
        new ++ go rest (old.length - 1)
      else c :: go rest 0

theorem cutFirst_eq_some_iff {mark : Char} {s before after : List Char} :
    cutFirst mark s = some (before, after) ↔
      s = before ++ mark :: after ∧ mark ∉ before := by
  induction s generalizing before with
  | nil => simp [cutFirst]
  | cons c rest ih =>
    by_cases h : c = mark
    · subst h
      cases before with
      | nil => simp [cutFirst]
      | cons d before =>
        simp only [cutFirst, if_true, Option.some.injEq, Prod.mk.injEq, List.nil_eq,
          List.cons_append, List.cons.injEq, List.mem_cons, not_or]
        constructor
        · intro impossible; exact absurd impossible.1 (by simp)
        · rintro ⟨⟨same, -⟩, different, -⟩; exact absurd same different
    · cases before with
      | nil =>
        simp [cutFirst, h]
      | cons d before =>
        simp only [cutFirst, if_neg h, Option.map_eq_some_iff, Prod.exists, Prod.mk.injEq,
          List.cons.injEq, List.cons_append, List.mem_cons, not_or]
        constructor
        · rintro ⟨x, y, found, ⟨rfl, rfl⟩, rfl⟩
          obtain ⟨rfl, absent⟩ := ih.1 found
          exact ⟨⟨rfl, rfl⟩, fun same => h same.symm, absent⟩
        · rintro ⟨⟨rfl, rfl⟩, -, absent⟩
          exact ⟨before, after, ih.2 ⟨rfl, absent⟩, ⟨rfl, rfl⟩, rfl⟩

theorem afterStart?_eq_some_iff {start s rest : List Char} :
    afterStart? start s = some rest ↔ s = start ++ rest := by
  induction start generalizing s with
  | nil => simp [afterStart?]
  | cons c start ih =>
    cases s with
    | nil => simp [afterStart?]
    | cons d s =>
      by_cases h : c = d
      · subst h; simp [afterStart?, ih]
      · simp [afterStart?, h, Ne.symm h]

theorem beforeEnd?_eq_some_iff {ending s front : List Char} :
    beforeEnd? ending s = some front ↔ s = front ++ ending := by
  unfold beforeEnd?
  rw [Option.map_eq_some_iff]
  constructor
  · rintro ⟨back, found, rfl⟩
    have same := afterStart?_eq_some_iff.1 found
    rw [← List.reverse_reverse s, same]
    simp
  · rintro rfl
    exact ⟨front.reverse, afterStart?_eq_some_iff.2 (by simp), by simp⟩

end ArtifactCatalog.Text
