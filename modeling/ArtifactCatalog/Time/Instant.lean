/-
Instants of universal time and their text form. An instant is written with the
fewest of no, three, six or nine digits of a fraction that are exact. Reading
takes any offset, any number of digits, and blanks between the parts.
-/

import ArtifactCatalog.Json.Form
import ArtifactCatalog.Number.Decimal
import ArtifactCatalog.Text.Blank
import ArtifactCatalog.Time.Calendar

namespace ArtifactCatalog.Time

/-- Seconds since the first of January 1970 and nanoseconds. Nanoseconds of a
thousand million or more belong to a leap second that follows the second. -/
structure Instant where
  seconds : Int
  nanoseconds : Nat
deriving DecidableEq, Repr

def secondsPerDay : Int := 86400

def nanosPerSecond : Nat := 1000000000

/-! ### Writing -/

def padded (width n : Nat) : List Char :=
  let digits := Number.natDigits n
  List.replicate (width - digits.length) '0' ++ digits

/-- Years of four digits stand alone; all others carry a sign. -/
def renderYear (year : Int) : List Char :=
  if 0 ≤ year ∧ year ≤ 9999 then padded 4 year.toNat
  else (if year < 0 then '-' else '+') :: padded 4 year.natAbs

def renderFraction (nanoseconds : Nat) : List Char :=
  if nanoseconds = 0 then []
  else if nanoseconds % 1000000 = 0 then '.' :: padded 3 (nanoseconds / 1000000)
  else if nanoseconds % 1000 = 0 then '.' :: padded 6 (nanoseconds / 1000)
  else '.' :: padded 9 nanoseconds

def Instant.render (instant : Instant) : List Char :=
  let date := Date.ofDays (instant.seconds / secondsPerDay)
  let time := (instant.seconds % secondsPerDay).toNat
  let second := time % 60 + instant.nanoseconds / nanosPerSecond
  renderYear date.year ++ '-' :: padded 2 date.month ++ '-' :: padded 2 date.day ++
    'T' :: padded 2 (time / 3600) ++ ':' :: padded 2 (time / 60 % 60) ++
    ':' :: padded 2 second ++ renderFraction (instant.nanoseconds % nanosPerSecond) ++ ['Z']

/-! ### Reading -/

def takeNumber (width : Nat) (s : List Char) : Option (Nat × List Char) :=
  let s := Text.trimStart s
  let digits := (s.take width).takeWhile Text.isAsciiDigit
  if digits.isEmpty then none else some (Number.ofDigits digits, s.drop digits.length)

/-- A year of at most four digits, or of any length behind a sign. -/
def takeYear (s : List Char) : Option (Int × List Char) :=
  match Text.trimStart s with
  | '-' :: rest => (takeSigned true rest)
  | '+' :: rest => (takeSigned false rest)
  | rest => (takeNumber 4 rest).map fun (year, rest) => ((year : Int), rest)
where
  takeSigned (negative : Bool) (s : List Char) : Option (Int × List Char) :=
    let digits := s.takeWhile Text.isAsciiDigit
    if digits.isEmpty then none
    else some (Number.applySign negative (Number.ofDigits digits), s.drop digits.length)

def takeMark (mark : Char) (s : List Char) : Option (List Char) :=
  match Text.trimStart s with
  | c :: rest => if c = mark then some rest else none
  | [] => none

/-- Nanoseconds of a fraction; digits beyond the ninth are dropped. -/
def takeFraction : List Char → Option (Nat × List Char)
  | '.' :: rest =>
    let digits := rest.takeWhile Text.isAsciiDigit
    let kept := digits.take 9
    if digits.isEmpty then none
    else some (Number.ofDigits kept * Nat.pow 10 (9 - kept.length), rest.drop digits.length)
  | rest => some (0, rest)

def takeOffsetTime : List Char → Option (Int × List Char)
  | a :: b :: rest =>
    if Text.isAsciiDigit a && Text.isAsciiDigit b then
      match rest.dropWhile (fun c => c == ':' || Text.isBlank c) with
      | c :: d :: rest =>
        if Text.isAsciiDigit c && Text.isAsciiDigit d && c.toNat < 0x36 then
          some (Number.ofDigits [a, b] * 3600 + Number.ofDigits [c, d] * 60, rest)
        else none
      | _ => none
    else none
  | _ => none

/-- The offset from universal time in seconds: a letter Z, the letters UTC, or
a sign with hours and minutes of less than a day. -/
def takeOffset (s : List Char) : Option (Int × List Char) :=
  match Text.trimStart s with
  | [] => none
  | c :: rest =>
    if Text.asciiLower ((c :: rest).take 3) = ['u', 't', 'c'] then some (0, rest.drop 2)
    else if c = 'Z' ∨ c = 'z' then some (0, rest)
    else if c = '+' then (takeOffsetTime rest).filter fun offset => offset.1 < secondsPerDay
    else if c = '-' ∨ c.toNat = 0x2212 then
      ((takeOffsetTime rest).filter fun offset => offset.1 < secondsPerDay).map
        fun (offset, rest) => (-offset, rest)
    else none

/-- The first and the last year that have dates. -/
def yearRange : Int × Int := (-262143, 262142)

def isSupportedYear (year : Int) : Bool := yearRange.1 ≤ year && year ≤ yearRange.2

/-- An instant that has a date and is not within a leap second. -/
structure Instant.IsDated (instant : Instant) : Prop where
  supported : isSupportedYear (Date.ofDays (instant.seconds / secondsPerDay)).year = true
  noLeap : instant.nanoseconds < nanosPerSecond

instance (instant : Instant) : Decidable instant.IsDated :=
  decidable_of_iff
    (isSupportedYear (Date.ofDays (instant.seconds / secondsPerDay)).year = true ∧
      instant.nanoseconds < nanosPerSecond)
    ⟨fun both => ⟨both.1, both.2⟩, fun dated => ⟨dated.supported, dated.noLeap⟩⟩

/-- Reads an instant. A second of sixty is a leap second. -/
def Instant.parse? (s : List Char) : Option Instant := do
  let (year, rest) ← takeYear s
  let rest ← takeMark '-' rest
  let (month, rest) ← takeNumber 2 rest
  let rest ← takeMark '-' rest
  let (day, rest) ← takeNumber 2 rest
  let rest ← match rest with
    | c :: rest => if c = 'T' ∨ c = 't' ∨ c = ' ' then some rest else none
    | [] => none
  let (hour, rest) ← takeNumber 2 rest
  let rest ← takeMark ':' rest
  let (minute, rest) ← takeNumber 2 rest
  let rest ← takeMark ':' rest
  let (second, rest) ← takeNumber 2 rest
  let (nanoseconds, rest) ← takeFraction rest
  let (offset, rest) ← takeOffset rest
  let date : Date := { year, month, day }
  guard (Text.allBlank rest)
  guard (isSupportedYear year && date.isValid)
  guard (hour < 24 && minute < 60 && second ≤ 60)
  let wholeSecond := min second 59
  let seconds :=
    date.toDays * secondsPerDay + hour * 3600 + minute * 60 + wholeSecond - offset
  guard (isSupportedYear (Date.ofDays (seconds / secondsPerDay)).year)
  return { seconds, nanoseconds := nanoseconds + (second - wholeSecond) * nanosPerSecond }

instance : JsonForm Instant where
  write instant := .text (String.ofList instant.render)
  read?
    | .text s => Instant.parse? s.toList
    | _ => none

end ArtifactCatalog.Time
