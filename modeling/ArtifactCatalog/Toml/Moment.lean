/-
Dates and times of TOML documents. They are read into their normal text: a
capital letter between date and time, and no zeros at the end of a fraction.
-/

import ArtifactCatalog.Number.Decimal
import ArtifactCatalog.Time.Calendar
import ArtifactCatalog.Time.Instant
import ArtifactCatalog.Toml.Fault

namespace ArtifactCatalog.Toml

def takeFixed? (count : Nat) (s : List Char) : Option (Nat × List Char) :=
  let digits := s.take count
  if digits.length = count && digits.all Text.isAsciiDigit then
    some (Number.ofDigits digits, s.drop count)
  else none

def takeMarked? (mark : Char) (count : Nat) : List Char → Option (Nat × List Char)
  | c :: rest => if c = mark then takeFixed? count rest else none
  | [] => none

/-- A part of a date or time: its text, if its numbers are in range, and the
text behind it. -/
abbrev MomentPart := Option (List Char) × List Char

def takeDate? (s : List Char) : Option MomentPart := do
  let (year, rest) ← takeFixed? 4 s
  let (month, rest) ← takeMarked? '-' 2 rest
  let (day, rest) ← takeMarked? '-' 2 rest
  let date : Time.Date := { year, month, day }
  let text := Time.padded 4 year ++ '-' :: Time.padded 2 month ++ '-' :: Time.padded 2 day
  return (if date.isValid then some text else none, rest)

def takeSecondFraction (s : List Char) : List Char × List Char :=
  match s with
  | '.' :: rest =>
    let digits := rest.takeWhile Text.isAsciiDigit
    if digits.isEmpty then ([], s)
    else
      let kept := ((digits.take 9).reverse.dropWhile (· == '0')).reverse
      (if kept.isEmpty then [] else '.' :: kept, rest.drop digits.length)
  | _ => ([], s)

def takeTime? (s : List Char) : Option MomentPart := do
  let (hour, rest) ← takeFixed? 2 s
  let (minute, rest) ← takeMarked? ':' 2 rest
  let (second, rest) ← takeMarked? ':' 2 rest
  let (fraction, rest) := takeSecondFraction rest
  let text := Time.padded 2 hour ++ ':' :: Time.padded 2 minute ++ ':' ::
    Time.padded 2 second ++ fraction
  return (if hour < 24 ∧ minute < 60 ∧ second ≤ 60 then some text else none, rest)

def takeZone (s : List Char) : MomentPart :=
  match s with
  | c :: rest =>
    if c = 'Z' ∨ c = 'z' then (some ['Z'], rest)
    else if c = '+' ∨ c = '-' then
      match (takeFixed? 2 rest).bind fun (hour, rest) =>
          (takeMarked? ':' 2 rest).map fun (minute, rest) => (hour, minute, rest) with
      | some (hour, minute, rest) =>
        let sign := if hour = 0 ∧ minute = 0 then '+' else c
        let text := sign :: Time.padded 2 hour ++ ':' :: Time.padded 2 minute
        (if hour < 24 ∧ minute < 60 then some text else none, rest)
      | none => (some [], s)
    else (some [], s)
  | [] => (some [], [])

def takeTimeOfDay? : List Char → Option MomentPart
  | mark :: rest =>
    if mark = 'T' ∨ mark = 't' ∨ mark = ' ' then
      (takeTime? rest).map fun (time, rest) =>
        let (zone, rest) := takeZone rest
        (do return 'T' :: (← time) ++ (← zone), rest)
    else none
  | [] => none

def takeMoment? (s : List Char) : Option MomentPart :=
  match takeDate? s with
  | some (date, rest) =>
    match takeTimeOfDay? rest with
    | some (time, rest) => some (do return (← date) ++ (← time), rest)
    | none => some (date, rest)
  | none => takeTime? s

end ArtifactCatalog.Toml
