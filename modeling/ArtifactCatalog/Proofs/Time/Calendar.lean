/-
A day number is computed back from its date, and the date is valid. The days of
400 years fall into centuries, groups of four years, and years; a leap day ends
the last year of a group, except in the last group of the first three centuries.
-/

import ArtifactCatalog.Time.Calendar
import Mathlib.Tactic.IntervalCases

namespace ArtifactCatalog.Time

/-! ### Years of an era -/

/-- A day of an era of 400 years: the century, the group of four years in it, the year of
the group and the day of the year, each counted from zero. -/
structure EraDay (dayOfEra century group year day : Int) : Prop where
  whole : dayOfEra = 36524 * century + 1461 * group + 365 * year + day
  centuries : 0 ≤ century ∧ century ≤ 3
  groups : 0 ≤ group ∧ group ≤ 24
  years : 0 ≤ year ∧ year ≤ 3
  days : 0 ≤ day ∧ day ≤ 365
  leap : day = 365 → year = 3 ∧ (group = 24 → century = 3)

theorem exists_eraDay {dayOfEra : Int} (low : 0 ≤ dayOfEra) (high : dayOfEra < 146097) :
    ∃ century group year day, EraDay dayOfEra century group year day := by
  obtain ⟨century, centuryIs⟩ : ∃ century, century = min (dayOfEra / 36524) 3 := ⟨_, rfl⟩
  obtain ⟨inCentury, inCenturyIs⟩ : ∃ day, day = dayOfEra - 36524 * century := ⟨_, rfl⟩
  obtain ⟨inGroup, inGroupIs⟩ : ∃ day, day = inCentury % 1461 := ⟨_, rfl⟩
  obtain ⟨year, yearIs⟩ : ∃ year, year = min (inGroup / 365) 3 := ⟨_, rfl⟩
  refine ⟨century, inCentury / 1461, year, inGroup - 365 * year, ?_, ?_, ?_, ?_, ?_, ?_⟩
  all_goals omega

namespace EraDay

variable {dayOfEra century group year day : Int}

theorem range (parts : EraDay dayOfEra century group year day) :
    0 ≤ dayOfEra ∧ dayOfEra < 146097 := by
  obtain ⟨whole, centuries, groups, years, days, leap⟩ := parts
  omega

theorem century_eq (parts : EraDay dayOfEra century group year day) :
    dayOfEra / 36524 - dayOfEra / 146096 = century := by
  obtain ⟨low, high⟩ := parts.range
  obtain ⟨whole, centuries, groups, years, days, leap⟩ := parts
  -- the last day of the era is one too many for four equal centuries
  by_cases last : dayOfEra = 146096
  · omega
  · have inside : dayOfEra / 146096 = 0 := by omega
    omega

theorem yearOfEra_eq (parts : EraDay dayOfEra century group year day) :
    (dayOfEra - dayOfEra / 1460 + dayOfEra / 36524 - dayOfEra / 146096) / 365 =
      100 * century + 4 * group + year := by
  have isCentury := parts.century_eq
  obtain ⟨whole, centuries, groups, years, days, leap⟩ := parts
  -- of the leap days so far, the one of this group counts towards the end of the group
  by_cases late : 1460 ≤ 24 * century + group + 365 * year + day
  · have leapDays : dayOfEra / 1460 = 25 * century + group + 1 := by omega
    omega
  · have leapDays : dayOfEra / 1460 = 25 * century + group := by omega
    omega

theorem dayOfYear_eq (parts : EraDay dayOfEra century group year day) :
    dayOfEra - (365 * (100 * century + 4 * group + year) + (100 * century + 4 * group + year) / 4 -
      (100 * century + 4 * group + year) / 100) = day := by
  obtain ⟨whole, centuries, groups, years, days, leap⟩ := parts
  have quarters : (100 * century + 4 * group + year) / 4 = 25 * century + group := by omega
  have hundreds : (100 * century + 4 * group + year) / 100 = century := by omega
  omega

theorem isLeapYear_of_day (parts : EraDay dayOfEra century group year day) (isLast : day = 365)
    (era : Int) : isLeapYear (100 * century + 4 * group + year + era * 400 + 1) = true := by
  obtain ⟨whole, centuries, groups, years, days, leap⟩ := parts
  obtain ⟨rfl, isLastCentury⟩ := leap isLast
  unfold isLeapYear
  simp only [Bool.and_eq_true, Bool.or_eq_true, bne_iff_ne, beq_iff_eq]
  omega

end EraDay

/-! ### Days of a year -/

namespace Date

def ofMarch (year dayOfYear : Int) : Date :=
  let monthFromMarch := (5 * dayOfYear + 2) / 153
  let day := dayOfYear - (153 * monthFromMarch + 2) / 5 + 1
  let month := if monthFromMarch < 10 then monthFromMarch + 3 else monthFromMarch - 9
  { year := if month ≤ 2 then year + 1 else year, month := month.toNat, day := day.toNat }

variable {year day : Int}

theorem toDays_ofMarch (low : 0 ≤ day) (high : day ≤ 365) :
    (ofMarch year day).toDays = year / 400 * 146097 +
      (year % 400 * 365 + year % 400 / 4 - year % 400 / 100 + day) - 719468 := by
  unfold ofMarch toDays
  dsimp only
  obtain ⟨month, monthIs⟩ : ∃ month, month = (5 * day + 2) / 153 := ⟨_, rfl⟩
  rw [← monthIs]
  have first : 0 ≤ month := by omega
  have last : month ≤ 11 := by omega
  interval_cases month <;> norm_num <;> omega

theorem isValid_ofMarch (low : 0 ≤ day) (high : day ≤ 365)
    (leap : day = 365 → isLeapYear (year + 1) = true) : (ofMarch year day).isValid = true := by
  unfold ofMarch isValid monthLength
  dsimp only
  obtain ⟨month, monthIs⟩ : ∃ month, month = (5 * day + 2) / 153 := ⟨_, rfl⟩
  rw [← monthIs]
  have first : 0 ≤ month := by omega
  have last : month ≤ 11 := by omega
  by_cases isLeap : isLeapYear (year + 1) = true
  · interval_cases month <;> simp [isLeap] <;> omega
  · have short : day ≤ 364 := by
      have notLast : day ≠ 365 := fun isLast => isLeap (leap isLast)
      omega
    interval_cases month <;> simp [isLeap] <;> omega

/-! ### Any day -/

/-- The year of an era and the day of the year, counted from March. -/
theorem exists_ofDays_eq_ofMarch (days : Int) : ∃ year day,
    ofDays days = ofMarch year day ∧ 0 ≤ day ∧ day ≤ 365 ∧
      (day = 365 → isLeapYear (year + 1) = true) ∧
      year / 400 * 146097 + (year % 400 * 365 + year % 400 / 4 - year % 400 / 100 + day) - 719468 =
        days := by
  obtain ⟨era, eraIs⟩ : ∃ era, era = (days + 719468) / 146097 := ⟨_, rfl⟩
  obtain ⟨dayOfEra, dayIs⟩ : ∃ day, day = (days + 719468) % 146097 := ⟨_, rfl⟩
  have low : 0 ≤ dayOfEra := by omega
  have high : dayOfEra < 146097 := by omega
  obtain ⟨century, group, inGroup, day, parts⟩ :=
    exists_eraDay low high
  refine ⟨100 * century + 4 * group + inGroup + era * 400, day, ?_, parts.days.1, parts.days.2,
    fun isLast => parts.isLeapYear_of_day isLast era, ?_⟩
  · have same := parts.dayOfYear_eq
    rw [← parts.yearOfEra_eq] at same ⊢
    rw [← same]
    subst dayIs eraIs
    rfl
  · have same := parts.dayOfYear_eq
    obtain ⟨_whole, centuries, groups, years, _days, _leap⟩ := parts
    have eras : (100 * century + 4 * group + inGroup + era * 400) / 400 = era := by omega
    have rest : (100 * century + 4 * group + inGroup + era * 400) % 400 =
      100 * century + 4 * group + inGroup := by omega
    rw [eras, rest]
    omega

theorem toDays_ofDays (days : Int) : (ofDays days).toDays = days := by
  obtain ⟨year, day, same, low, high, _leap, number⟩ := exists_ofDays_eq_ofMarch days
  rw [same, toDays_ofMarch low high, number]

theorem isValid_ofDays (days : Int) : (ofDays days).isValid = true := by
  obtain ⟨year, day, same, low, high, leap, _number⟩ := exists_ofDays_eq_ofMarch days
  rw [same]
  exact isValid_ofMarch low high leap

end Date

end ArtifactCatalog.Time
