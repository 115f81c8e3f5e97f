/-
The order of texts by code point, which is also the order of their UTF-8 bytes.
-/

namespace ArtifactCatalog.Text

/-- Compares at the first place where two texts differ; a text is below its
own continuations. -/
def compareText : List Char → List Char → Ordering
  | [], [] => .eq
  | [], _ :: _ => .lt
  | _ :: _, [] => .gt
  | c :: s, d :: t => (compare c.toNat d.toNat).then (compareText s t)

def compareStrings (a b : String) : Ordering := compareText a.toList b.toList

theorem compareText_self (s : List Char) : compareText s s = .eq := by
  induction s with
  | nil => rfl
  | cons c s ih => simp [compareText, ih]

end ArtifactCatalog.Text
