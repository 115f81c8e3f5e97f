/-
Binary numbers of double precision as exact values. A decimal text is rounded
to the nearest of them, ties to the even significand; a finite number is
written with the fewest digits that lead back to it. All arithmetic is on
natural numbers.
-/

import ArtifactCatalog.Number.Text

namespace ArtifactCatalog.Number

/-- A double-precision number. The value of `finite negative significand exponent`
is the significand times two to the exponent, with a sign. -/
inductive Binary64 where
  | finite (negative : Bool) (significand : Nat) (exponent : Int)
  | infinite (negative : Bool)
  | undefined
deriving DecidableEq, Repr

namespace Binary64

def leastExponent : Int := -1074

def greatestExponent : Int := 971

def significandLimit : Nat := Nat.pow 2 53

/-- The quotient of two numbers rounded to the nearest integer, ties to even. -/
def roundQuotient (numerator denominator : Nat) : Nat :=
  let quotient := numerator / denominator
  let twice := 2 * (numerator % denominator)
  if twice < denominator then quotient
  else if twice = denominator then (if quotient % 2 = 0 then quotient else quotient + 1)
  else quotient + 1

def scaleDown (numerator denominator : Nat) (exponent : Int) : Nat × Nat :=
  if exponent < 0 then (numerator * Nat.pow 2 exponent.natAbs, denominator)
  else (numerator, denominator * Nat.pow 2 exponent.natAbs)

/-- The exponent at which a positive fraction has a significand of full length,
never below the least exponent. -/
def exponentFor (numerator denominator : Nat) : Int :=
  let guess : Int := (Nat.log2 numerator : Int) - Nat.log2 denominator - 53
  let fits (exponent : Int) : Bool :=
    let (n, d) := scaleDown numerator denominator exponent
    n < significandLimit * d
  let exponent := if fits guess then guess else if fits (guess + 1) then guess + 1 else guess + 2
  max exponent leastExponent

def ofFraction (negative : Bool) (numerator denominator : Nat) : Binary64 :=
  if numerator = 0 then .finite negative 0 leastExponent
  else
    let exponent := exponentFor numerator denominator
    let (n, d) := scaleDown numerator denominator exponent
    let significand := roundQuotient n d
    let (significand, exponent) :=
      if significand = significandLimit then (significandLimit / 2, exponent + 1)
      else (significand, exponent)
    if exponent > greatestExponent then .infinite negative
    else .finite negative significand exponent

/-- The number nearest to `digits` times ten to the `exponent`. Exponents that
lead past every finite number, or below half of the least, are settled first. -/
def ofDecimal (negative : Bool) (digits : Nat) (exponent : Int) : Binary64 :=
  let places : Int := Nat.log2 digits / 3 + 1
  if digits = 0 then .finite negative 0 leastExponent
  else if exponent > 310 then .infinite negative
  else if exponent + places < -330 then .finite negative 0 leastExponent
  else if exponent < 0 then ofFraction negative digits (Nat.pow 10 exponent.natAbs)
  else ofFraction negative (digits * Nat.pow 10 exponent.natAbs) 1

def isFinite : Binary64 → Bool
  | .finite .. => true
  | _ => false

def isZero : Binary64 → Bool
  | .finite _ significand _ => significand == 0
  | _ => false

/-! ### Shortest digits -/

def fraction (significand : Nat) (exponent : Int) : Nat × Nat :=
  if exponent < 0 then (significand, Nat.pow 2 exponent.natAbs)
  else (significand * Nat.pow 2 exponent.natAbs, 1)

/-- Whether a decimal is read as the positive number with this significand and exponent. -/
def readsBack (significand : Nat) (exponent : Int) (digits : Nat) (power : Int) : Bool :=
  ofDecimal false digits power == .finite false significand exponent

/-- The greatest power of ten that does not exceed the positive fraction. -/
def decimalPower (numerator denominator : Nat) : Int :=
  let guess : Int := ((Nat.log2 numerator : Int) - Nat.log2 denominator) * 30103 / 100000
  let reaches (power : Int) : Bool :=
    if power < 0 then denominator ≤ numerator * Nat.pow 10 power.natAbs
    else denominator * Nat.pow 10 power.natAbs ≤ numerator
  if reaches (guess + 2) then guess + 2
  else if reaches (guess + 1) then guess + 1
  else if reaches guess then guess
  else if reaches (guess - 1) then guess - 1
  else guess - 2

/-- The neighbour of the fraction with `count` digits that reads back and lies
nearer, if one of the two neighbours reads back. -/
def digitsAt (significand : Nat) (exponent : Int) (count : Nat) : Option (Nat × Int) :=
  let (numerator, denominator) := fraction significand exponent
  let power := decimalPower numerator denominator - (count : Int) + 1
  let (n, d) :=
    if power < 0 then (numerator * Nat.pow 10 power.natAbs, denominator)
    else (numerator, denominator * Nat.pow 10 power.natAbs)
  let below := n / d
  let above := below + 1
  let nearer := if 2 * (n % d) < d then [below, above]
    else if 2 * (n % d) = d then (if below % 2 = 0 then [below, above] else [above, below])
    else [above, below]
  (nearer.find? fun digits => readsBack significand exponent digits power).map fun digits =>
    if digits = Nat.pow 10 count then (1, power + count) else (digits, power)

/-- The fewest decimal digits that read back, with the power of ten of the last one. -/
def shortest (significand : Nat) (exponent : Int) : Nat × Int :=
  ((List.range 17).findSome? fun count => digitsAt significand exponent (count + 1)).getD (0, 0)

def positional (digits : Nat) (power : Int) : List Char :=
  let text := natDigits digits
  if 0 ≤ power then text ++ List.replicate power.natAbs '0'
  else
    let places := power.natAbs
    if places < text.length then
      text.take (text.length - places) ++ '.' :: text.drop (text.length - places)
    else '0' :: '.' :: (List.replicate (places - text.length) '0' ++ text)

/-- The text of a number: never an exponent, and no point when it is whole. -/
def text : Binary64 → List Char
  | .undefined => ['N', 'a', 'N']
  | .infinite negative => (if negative then ['-'] else []) ++ ['i', 'n', 'f']
  | .finite negative significand exponent =>
    (if negative then ['-'] else []) ++
      (if significand = 0 then ['0']
       else
        let (digits, power) := shortest significand exponent
        positional digits power)

/-- The nearest natural number, a half counting upward; negative numbers and
undefined ones give zero, and `limit` bounds the result. -/
def roundToNat (limit : Nat) : Binary64 → Nat
  | .undefined => 0
  | .infinite negative => if negative then 0 else limit
  | .finite negative significand exponent =>
    if negative then 0
    else
      let (numerator, denominator) := fraction significand exponent
      min limit ((2 * numerator + denominator) / (2 * denominator))

end Binary64

end ArtifactCatalog.Number
