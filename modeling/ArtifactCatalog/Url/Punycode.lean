/-
Punycode: labels beyond ASCII written with letters, digits and hyphens. The
plain characters come first; the others follow in the order of their code
points, each as the distance from the one before in digits of base 36 whose
weights adapt to the distances seen.
-/

namespace ArtifactCatalog.Url.Punycode

def digitChar (d : Nat) : Char :=
  if d < 26 then Char.ofNat (0x61 + d) else Char.ofNat (0x30 + (d - 26))

def digitValue? (c : Char) : Option Nat :=
  let n := c.toNat
  if 0x61 ≤ n ∧ n ≤ 0x7a then some (n - 0x61)
  else if 0x30 ≤ n ∧ n ≤ 0x39 then some (n - 0x30 + 26)
  else none

/-- The least digit that is not the last one at a position. -/
def threshold (position bias : Nat) : Nat := min 26 (max 1 (position - bias))

def shrink (distance steps : Nat) : Nat × Nat :=
  if 455 < distance then shrink (distance / 35) (steps + 36) else (distance, steps)
termination_by distance
decreasing_by exact Nat.div_lt_self (by omega) (by omega)

def adapt (distance count : Nat) (first : Bool) : Nat :=
  let halved := if first then distance / 700 else distance / 2
  let (rest, steps) := shrink (halved + halved / count) 0
  steps + 36 * rest / (rest + 38)

def encodeDistance (bias position distance : Nat) : List Char :=
  let t := threshold position bias
  if distance < t then [digitChar distance]
  else
    digitChar (t + (distance - t) % (36 - t)) ::
      encodeDistance bias (position + 36) ((distance - t) / (36 - t))
termination_by distance
decreasing_by
  have positive : 1 ≤ threshold position bias := by unfold threshold; omega
  have bound := Nat.div_le_self (distance - threshold position bias)
    (36 - threshold position bias)
  omega

structure EncoderState where
  written : List Char
  distance : Nat
  bias : Nat
  count : Nat

/-- Passes a character of the label while the code point `n` is written. -/
def pass (plain n : Nat) (s : EncoderState) (c : Char) : EncoderState :=
  if c.toNat < n then { s with distance := s.distance + 1 }
  else if c.toNat = n then
    { written := s.written ++ encodeDistance s.bias 36 s.distance
      distance := 0
      bias := adapt s.distance (s.count + 1) (s.count == plain)
      count := s.count + 1 }
  else s

/-- Writes the code points of a rising list; `last` is the one before. -/
def encodeFrom (label : List Char) (plain : Nat) :
    List Nat → Nat → EncoderState → EncoderState
  | [], _, s => s
  | n :: rest, last, s =>
    let s := { s with distance := s.distance + (n - last) * (s.count + 1) }
    let s := label.foldl (pass plain n) s
    encodeFrom label plain rest (n + 1) { s with distance := s.distance + 1 }

def isPlain (c : Char) : Bool := c.toNat < 0x80

def encode (label : List Char) : List Char :=
  let plain := label.filter isPlain
  let others := ((label.filter (!isPlain ·)).map Char.toNat).mergeSort.eraseDups
  let start : EncoderState := { written := [], distance := 0, bias := 72, count := plain.length }
  plain ++ (if plain.isEmpty then [] else ['-']) ++
    (encodeFrom label plain.length others 128 start).written

/-! ### Reading -/

/-- Adds the number in the leading digits, times `weight`, to a distance. -/
def takeDistance (bias : Nat) : List Char → Nat → Nat → Nat → Option (Nat × List Char)
  | [], _, _, _ => none
  | c :: rest, position, weight, distance =>
    match digitValue? c with
    | none => none
    | some d =>
      let t := threshold position bias
      if d < t then some (distance + d * weight, rest)
      else takeDistance bias rest (position + 36) (weight * (36 - t)) (distance + d * weight)

theorem length_of_takeDistance {bias : Nat} {s rest : List Char}
    {position weight distance total : Nat}
    (taken : takeDistance bias s position weight distance = some (total, rest)) :
    rest.length < s.length := by
  induction s generalizing position weight distance with
  | nil => simp [takeDistance] at taken
  | cons c tail ih =>
    rw [takeDistance] at taken
    split at taken
    · simp at taken
    · simp only at taken
      split at taken
      · simp only [Option.some.injEq, Prod.mk.injEq] at taken
        simp [← taken.2]
      · have := ih taken
        simp only [List.length_cons]
        omega

def insertAll (bias n place : Nat) (known s : List Char) : Option (List Char) :=
  if s.isEmpty then some known
  else
    match _ : takeDistance bias s 36 1 place with
    | none => none
    | some (total, rest) =>
      let count := known.length + 1
      let m := n + total / count
      let spot := total % count
      if m < 0xd800 ∨ (0xdfff < m ∧ m < 0x110000) then
        insertAll (adapt (total - place) count (place == 0)) m (spot + 1)
          (known.take spot ++ Char.ofNat m :: known.drop spot) rest
      else none
termination_by s.length
decreasing_by exact length_of_takeDistance (by assumption)

def decode? (s : List Char) : Option (List Char) :=
  let digits := (s.reverse.takeWhile (· != '-')).reverse
  let plain := (s.take (s.length - digits.length)).dropLast
  if plain.all isPlain then insertAll 72 128 0 plain digits else none

end ArtifactCatalog.Url.Punycode
