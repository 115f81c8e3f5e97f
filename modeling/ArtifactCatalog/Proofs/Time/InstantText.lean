/-
Instants as texts. A number with leading zeros is read back to the end of its
width, a fraction of three, six or nine digits to its nanoseconds, and so the
text of an instant that has a date is read back as the instant.
-/

import ArtifactCatalog.Proofs.Number.DecimalText
import ArtifactCatalog.Proofs.Text.Cutting
import ArtifactCatalog.Proofs.Time.Calendar
import ArtifactCatalog.Time.Instant

namespace ArtifactCatalog.Time

/-! ### Numbers of a fixed width -/

section Padded

variable {width n : Nat}

theorem isAsciiDigit_of_mem_padded {c : Char} (member : c ∈ padded width n) :
    Text.isAsciiDigit c = true := by
  rcases List.mem_append.1 member with zero | digit
  · rw [List.eq_of_mem_replicate zero]
    rfl
  · exact Number.isAsciiDigit_of_mem_natDigits digit

theorem padded_ne_nil (width n : Nat) : padded width n ≠ [] := by
  simp [padded, Number.natDigits]

theorem isEmpty_padded (width n : Nat) : ¬ (padded width n).isEmpty = true := by
  rw [List.isEmpty_iff]
  exact padded_ne_nil width n

theorem length_padded (positive : 0 < width) (fits : n < 10 ^ width) :
    (padded width n).length = width := by
  have short : (Number.natDigits n).length ≤ width :=
    (Nat.length_toDigits_le_iff (by decide) positive).2 fits
  unfold padded
  rw [List.length_append, List.length_replicate]
  omega

theorem ofDigits_padded (width n : Nat) : Number.ofDigits (padded width n) = n := by
  change Nat.ofDigitChars 10 (padded width n) 0 = n
  unfold padded
  rw [Nat.ofDigitChars_append, Nat.ofDigitChars_replicate_zero, Nat.mul_zero]
  exact Nat.ofDigitChars_ten_toDigits

theorem takeWhile_padded (width n : Nat) :
    (padded width n).takeWhile Text.isAsciiDigit = padded width n :=
  List.takeWhile_eq_self_iff.2 fun _ => isAsciiDigit_of_mem_padded

theorem exists_padded_eq_cons (width n : Nat) :
    ∃ c rest, padded width n = c :: rest ∧ Text.isAsciiDigit c = true := by
  obtain ⟨c, rest, same⟩ := List.exists_cons_of_ne_nil (padded_ne_nil width n)
  have member : c ∈ padded width n := by
    rw [same]
    exact List.mem_cons_self
  exact ⟨c, rest, same, isAsciiDigit_of_mem_padded member⟩

theorem padded_append_ne_cons {mark : Char} (noDigit : Text.isAsciiDigit mark = false)
    (width n : Nat) (rest other : List Char) : padded width n ++ rest ≠ mark :: other := by
  obtain ⟨c, digits, same, isDigit⟩ := exists_padded_eq_cons width n
  intro marked
  rw [same, List.cons_append, List.cons.injEq] at marked
  rw [marked.1, noDigit] at isDigit
  cases isDigit

theorem trimStart_padded (width n : Nat) (rest : List Char) :
    Text.trimStart (padded width n ++ rest) = padded width n ++ rest := by
  obtain ⟨c, digits, same, isDigit⟩ := exists_padded_eq_cons width n
  have stays : ¬ Text.isBlank c = true := by
    rw [Version.isBlank_of_isAsciiDigit isDigit]
    exact Bool.false_ne_true
  unfold Text.trimStart
  rw [same, List.cons_append, List.dropWhile_cons_of_neg stays]

theorem takeNumber_padded (positive : 0 < width) (fits : n < 10 ^ width) (rest : List Char) :
    takeNumber width (padded width n ++ rest) = some (n, rest) := by
  have length := length_padded positive fits
  have taken : (padded width n ++ rest).take width = padded width n := by
    rw [List.take_append_of_le_length (Nat.le_of_eq length.symm)]
    exact List.take_of_length_le (Nat.le_of_eq length)
  unfold takeNumber
  dsimp only
  rw [trimStart_padded, taken, takeWhile_padded, if_neg (isEmpty_padded width n),
    ofDigits_padded, List.drop_left]

end Padded

theorem takeMark_cons {mark : Char} (visible : Text.isBlank mark = false) (rest : List Char) :
    takeMark mark (mark :: rest) = some rest := by
  unfold takeMark Text.trimStart
  rw [List.dropWhile_cons_of_neg (by rw [visible]; exact Bool.false_ne_true)]
  exact if_pos rfl

theorem takeSigned_padded {rest : List Char} (negative : Bool) (width n : Nat)
    (ends : ∀ c ∈ rest.head?, Text.isAsciiDigit c = false) :
    takeYear.takeSigned negative (padded width n ++ rest) =
      some (Number.applySign negative n, rest) := by
  have isDigit : ∀ c ∈ padded width n, Text.isAsciiDigit c = true :=
    fun _ => isAsciiDigit_of_mem_padded
  obtain ⟨digits, _left⟩ := Text.takeWhile_append_exact isDigit ends
  unfold takeYear.takeSigned
  dsimp only
  rw [digits, if_neg (isEmpty_padded width n), ofDigits_padded, List.drop_left]

theorem takeYear_renderYear (year : Int) {rest : List Char}
    (ends : ∀ c ∈ rest.head?, Text.isAsciiDigit c = false) :
    takeYear (renderYear year ++ rest) = some (year, rest) := by
  unfold takeYear renderYear
  by_cases plain : 0 ≤ year ∧ year ≤ 9999
  · have fits : year.toNat < 10 ^ 4 := by omega
    rw [if_pos plain, trimStart_padded]
    split
    · rename_i isMinus
      exact absurd isMinus (padded_append_ne_cons rfl _ _ _ _)
    · rename_i isPlus
      exact absurd isPlus (padded_append_ne_cons rfl _ _ _ _)
    · rw [takeNumber_padded (by decide) fits, Option.map_some]
      dsimp only
      rw [Int.toNat_of_nonneg plain.1]
  · have trimmed {sign : Char} (visible : Text.isBlank sign = false) (text : List Char) :
        Text.trimStart (sign :: text) = sign :: text := by
      unfold Text.trimStart
      rw [List.dropWhile_cons_of_neg (by rw [visible]; exact Bool.false_ne_true)]
    have signed := Number.applySign_natAbs year
    rw [if_neg plain]
    by_cases negative : year < 0
    · rw [decide_eq_true negative] at signed
      rw [if_pos negative, List.cons_append, trimmed (by decide)]
      change takeYear.takeSigned true (padded 4 year.natAbs ++ rest) = _
      rw [takeSigned_padded true 4 _ ends, signed]
    · rw [decide_eq_false negative] at signed
      rw [if_neg negative, List.cons_append, trimmed (by decide)]
      change takeYear.takeSigned false (padded 4 year.natAbs ++ rest) = _
      rw [takeSigned_padded false 4 _ ends, signed]

/-! ### Fractions -/

theorem takeFraction_padded {width n : Nat} (positive : 0 < width) (narrow : width ≤ 9)
    (fits : n < 10 ^ width) :
    takeFraction ('.' :: padded width n ++ ['Z']) = some (n * 10 ^ (9 - width), ['Z']) := by
  have digits : (padded width n ++ ['Z']).takeWhile Text.isAsciiDigit = padded width n := by
    rw [List.takeWhile_append_of_pos fun _ => isAsciiDigit_of_mem_padded]
    exact List.append_nil _
  have length := length_padded positive fits
  rw [List.cons_append, takeFraction, digits, if_neg (isEmpty_padded width n),
    List.take_of_length_le (by omega), ofDigits_padded, length, List.drop_left' length]
  rfl

theorem takeFraction_renderFraction {nanoseconds : Nat} (noLeap : nanoseconds < nanosPerSecond) :
    takeFraction (renderFraction nanoseconds ++ ['Z']) = some (nanoseconds, ['Z']) := by
  unfold nanosPerSecond at noLeap
  unfold renderFraction
  split
  · rename_i whole
    rw [whole]
    rfl
  · split
    · rename_i millis
      rw [takeFraction_padded (by decide) (by decide) (by omega)]
      have exact : nanoseconds / 1000000 * 10 ^ (9 - 3) = nanoseconds := by omega
      rw [exact]
    · split
      · rename_i micros
        rw [takeFraction_padded (by decide) (by decide) (by omega)]
        have exact : nanoseconds / 1000 * 10 ^ (9 - 6) = nanoseconds := by omega
        rw [exact]
      · rw [takeFraction_padded (by decide) (by decide) (by omega), Nat.sub_self, Nat.pow_zero,
          Nat.mul_one]

/-! ### Instants -/

theorem isSupportedYear_of_fourDigits {year : Int} (first : 0 ≤ year) (last : year ≤ 9999) :
    isSupportedYear year = true := by
  unfold isSupportedYear yearRange
  simp only [Bool.and_eq_true, decide_eq_true_eq]
  omega

theorem Date.lt_hundred_of_isValid {date : Date} (valid : date.isValid = true) :
    date.month < 10 ^ 2 ∧ date.day < 10 ^ 2 := by
  have length : monthLength date.year date.month ≤ 31 := by
    unfold monthLength
    grind
  unfold Date.isValid at valid
  simp only [Bool.and_eq_true, decide_eq_true_eq] at valid
  omega

def clockText (date : Date) (hour minute second nanoseconds : Nat) : List Char :=
  renderYear date.year ++ '-' :: padded 2 date.month ++ '-' :: padded 2 date.day ++
    'T' :: padded 2 hour ++ ':' :: padded 2 minute ++ ':' :: padded 2 second ++
    renderFraction nanoseconds ++ ['Z']

/-- The reader takes the parts of the text one by one, and none of its checks fails. -/
theorem Instant.parse?_clockText {day : Int} {hour minute second nanoseconds : Nat}
    (supported : isSupportedYear (Date.ofDays day).year = true)
    (hours : hour < 24) (minutes : minute < 60) (seconds : second < 60)
    (noLeap : nanoseconds < nanosPerSecond) :
    Instant.parse? (clockText (Date.ofDays day) hour minute second nanoseconds) =
      some { seconds := day * secondsPerDay + hour * 3600 + minute * 60 + second, nanoseconds } := by
  have valid := Date.isValid_ofDays day
  obtain ⟨monthFits, dayFits⟩ := Date.lt_hundred_of_isValid valid
  have twoDigits : 0 < 2 := by decide
  have universal : takeOffset ['Z'] = some (0, []) := by decide
  have unchanged : Date.mk (Date.ofDays day).year (Date.ofDays day).month (Date.ofDays day).day =
      Date.ofDays day := rfl
  have wholeSecond : min second 59 = second := by omega
  have sameDay : (day * secondsPerDay + hour * 3600 + minute * 60 + second - 0) / secondsPerDay =
      day := by
    unfold secondsPerDay
    omega
  have checked : (decide (hour < 24) && decide (minute < 60) && decide (second ≤ 60)) = true := by
    simp only [Bool.and_eq_true, decide_eq_true_eq]
    omega
  unfold clockText Instant.parse?
  simp only [List.append_assoc, List.cons_append]
  rw [takeYear_renderYear _ (by rintro c ⟨⟩; rfl)]
  dsimp only [Option.bind_eq_bind, Option.bind_some]
  rw [takeMark_cons (by decide), Option.bind_some, takeNumber_padded twoDigits monthFits]
  dsimp only [Option.bind_some]
  rw [takeMark_cons (by decide), Option.bind_some, takeNumber_padded twoDigits dayFits]
  dsimp only [Option.bind_some]
  rw [if_pos (Or.inl rfl), takeNumber_padded twoDigits (by omega)]
  dsimp only [Option.bind_some]
  rw [takeMark_cons (by decide), Option.bind_some, takeNumber_padded twoDigits (by omega)]
  dsimp only [Option.bind_some]
  rw [takeMark_cons (by decide), Option.bind_some, takeNumber_padded twoDigits (by omega)]
  dsimp only [Option.bind_some]
  rw [takeFraction_renderFraction noLeap]
  dsimp only [Option.bind_some]
  rw [universal]
  dsimp only [Option.bind_some]
  rw [unchanged, Date.toDays_ofDays, wholeSecond, sameDay, supported, valid, checked]
  simp [guard, Text.allBlank]

theorem Instant.parse?_render {instant : Instant} (dated : instant.IsDated) :
    Instant.parse? instant.render = some instant := by
  obtain ⟨supported, noLeap⟩ := dated
  obtain ⟨day, dayIs⟩ : ∃ day, day = instant.seconds / secondsPerDay := ⟨_, rfl⟩
  obtain ⟨time, timeIs⟩ : ∃ time, time = (instant.seconds % secondsPerDay).toNat := ⟨_, rfl⟩
  rw [← dayIs] at supported
  unfold secondsPerDay at dayIs timeIs
  have text : instant.render = clockText (Date.ofDays day) (time / 3600) (time / 60 % 60)
      (time % 60) instant.nanoseconds := by
    unfold Instant.render clockText
    rw [Nat.div_eq_of_lt noLeap, Nat.mod_eq_of_lt noLeap]
    subst dayIs timeIs
    rfl
  have total : day * secondsPerDay + (time / 3600 : Nat) * 3600 + (time / 60 % 60 : Nat) * 60 +
      (time % 60 : Nat) = instant.seconds := by
    unfold secondsPerDay
    omega
  rw [text, Instant.parse?_clockText supported (by omega) (by omega) (by omega) noLeap, total]

/-- An instant of the years 0 to 9999 that is not within a leap second. -/
structure Instant.IsPlain (instant : Instant) : Prop where
  first : 0 ≤ (Date.ofDays (instant.seconds / secondsPerDay)).year
  last : (Date.ofDays (instant.seconds / secondsPerDay)).year ≤ 9999
  noLeap : instant.nanoseconds < nanosPerSecond

theorem Instant.IsPlain.isDated {instant : Instant} (plain : instant.IsPlain) :
    instant.IsDated where
  supported := isSupportedYear_of_fourDigits plain.first plain.last
  noLeap := plain.noLeap

end ArtifactCatalog.Time
