/-!
# Dates

Days of the Gregorian calendar, reckoned backward to all years, and their numbering: day zero is the
first of January 1970. A date carries the proof that it exists.

The number of a date is the number of days before its year, before its month, and before it in the
month. Going back, a day number is split into periods of 400, 100, 4 and 1 years, and the rest into
months.

## Main definitions

* `FilterSql.Date`: a date that exists.
* `FilterSql.Date.ofYmd?`: the date of a year, a month and a day.
* `FilterSql.Date.dayNumber`, `FilterSql.Date.ofDayNumber`: dates as numbers.
* `FilterSql.Date.weekday`: the day of the week.

## Main results

* `FilterSql.Date.dayNumber_ofDayNumber`: every number is that of a date.
-/

namespace FilterSql

namespace Date

/-- A year with a 29th of February. -/
def isLeap (year : Int) : Bool :=
  year % 4 == 0 && (year % 100 != 0 || year % 400 == 0)

/-- The lengths of the months of a year. -/
def monthLengths (year : Int) : List Nat :=
  [31, if isLeap year then 29 else 28, 31, 30, 31, 30, 31, 31, 30, 31, 30, 31]

/-- The length of a month, counted from one; zero for what is no month. -/
def monthLength (year : Int) (month : Nat) : Nat :=
  if month = 0 then 0 else (monthLengths year).getD (month - 1) 0

/-- The dates that exist. -/
def Exists (year : Int) (month day : Nat) : Prop :=
  1 ≤ month ∧ month ≤ 12 ∧ 1 ≤ day ∧ day ≤ monthLength year month

instance (year : Int) (month day : Nat) : Decidable (Exists year month day) :=
  inferInstanceAs (Decidable (_ ∧ _))

end Date

/-- A date that exists. -/
structure Date where
  /-- The year. -/
  year : Int
  /-- The month, from one on. -/
  month : Nat
  /-- The day of the month, from one on. -/
  day : Nat
  /-- The date exists. -/
  real : Date.Exists year month day
deriving DecidableEq

namespace Date

/-- The first year that a written date may have. -/
def minYear : Int := -262143

/-- The last year that a written date may have. -/
def maxYear : Int := 262142

/-- The date of a year within the bounds, a month and a day, if it exists. -/
def ofYmd? (year : Int) (month day : Nat) : Option Date :=
  if h : Exists year month day then
    if minYear ≤ year ∧ year ≤ maxYear then some ⟨year, month, day, h⟩ else none
  else none

/-- The last date within the bounds. -/
def latest : Date :=
  ⟨maxYear, 12, 31, by decide⟩

/-- The first day of a month has a date. -/
theorem exists_first {year : Int} {month day : Nat} (h : Exists year month day) :
    Exists year month 1 :=
  ⟨h.1, h.2.1, Nat.le_refl 1, Nat.le_trans h.2.2.1 h.2.2.2⟩

/-- The first day of the month of a date. -/
def firstOfMonth (d : Date) : Date :=
  ⟨d.year, d.month, 1, exists_first d.real⟩

/-- The days from the first of January of the year one to that of a year. -/
def daysBeforeYear (year : Int) : Int :=
  let p := year - 1
  365 * p + p / 4 - p / 100 + p / 400

/-- The days of some months of given lengths. -/
def daysIn (lengths : List Nat) : Nat :=
  lengths.foldr (· + ·) 0

@[simp] theorem daysIn_nil : daysIn [] = 0 := rfl

@[simp] theorem daysIn_cons (length : Nat) (rest : List Nat) :
    daysIn (length :: rest) = length + daysIn rest := rfl

/-- The days of a year before a month. -/
def daysBeforeMonth (year : Int) (month : Nat) : Nat :=
  daysIn ((monthLengths year).take (month - 1))

/-- The days from the first of January of the year one to that of 1970. -/
def epochOffset : Int := 719162

/-- The number of a date, which is zero for the first of January 1970. -/
def dayNumber (d : Date) : Int :=
  daysBeforeYear d.year + daysBeforeMonth d.year d.month + (d.day - 1 : Nat) - epochOffset

/-- The year of a day counted from the first of January of the year one: whole periods of 400, 100,
4 and 1 years. The last of four periods of 100 or 1 years may be one day longer. -/
def yearOfDay (n : Int) : Int :=
  let inEra := n % 146097
  let century := min (inEra / 36524) 3
  let inCentury := inEra - 36524 * century
  let inGroup := inCentury % 1461
  400 * (n / 146097) + 100 * century + 4 * (inCentury / 1461) + min (inGroup / 365) 3 + 1

/-- The days before a year that is split into periods of 400, 100, 4 and 1 years. -/
theorem daysBeforeYear_periods {y : Int} (era century group year : Int)
    (h : y = 400 * era + 100 * century + 4 * group + year + 1)
    (hc : 0 ≤ century ∧ century ≤ 3) (hg : 0 ≤ group ∧ group ≤ 24) (hy : 0 ≤ year ∧ year ≤ 3) :
    daysBeforeYear y = 146097 * era + 36524 * century + 1461 * group + 365 * year := by
  have h4 : (y - 1) / 4 = 100 * era + 25 * century + group := by omega
  have h100 : (y - 1) / 100 = 4 * era + century := by omega
  have h400 : (y - 1) / 400 = era := by omega
  simp only [daysBeforeYear, h4, h100, h400]
  omega

/-- A day is the sum of its periods and of a rest within its year; only the last of four years has
a day with the number 365, and not at the end of a century unless an era ends as well. -/
theorem exists_periods (n : Int) : ∃ era century group year rest : Int,
    (0 ≤ century ∧ century ≤ 3) ∧ (0 ≤ group ∧ group ≤ 24) ∧ (0 ≤ year ∧ year ≤ 3) ∧
      yearOfDay n = 400 * era + 100 * century + 4 * group + year + 1 ∧
      n = 146097 * era + 36524 * century + 1461 * group + 365 * year + rest ∧ 0 ≤ rest ∧
      (rest < 365 ∨ rest = 365 ∧ year = 3 ∧ (group < 24 ∨ century = 3)) := by
  let inEra := n % 146097
  let century := min (inEra / 36524) 3
  let inCentury := inEra - 36524 * century
  let inGroup := inCentury % 1461
  have he : 0 ≤ inEra ∧ inEra < 146097 := by omega
  have hc : 0 ≤ century ∧ century ≤ 3 := by omega
  have hr : 0 ≤ inCentury ∧ (inCentury < 36524 ∨ (century = 3 ∧ inCentury = 36524)) := by omega
  have hg : 0 ≤ inCentury / 1461 ∧ inCentury / 1461 ≤ 24 := by omega
  refine ⟨n / 146097, century, inCentury / 1461, min (inGroup / 365) 3,
    inGroup - 365 * min (inGroup / 365) 3, hc, hg, by omega, rfl, by omega, by omega, ?_⟩
  have hi : 0 ≤ inGroup ∧ inGroup ≤ 1460 := by omega
  by_cases h : inGroup = 1460
  · refine Or.inr ⟨by omega, by omega, ?_⟩
    omega
  · exact Or.inl (by omega)

/-- A day does not come before the first day of its year. -/
theorem daysBeforeYear_yearOfDay_le (n : Int) : daysBeforeYear (yearOfDay n) ≤ n := by
  obtain ⟨era, century, group, year, rest, hc, hg, hy, he, hn, h0, -⟩ := exists_periods n
  rw [daysBeforeYear_periods era century group year he hc hg hy]
  omega

theorem isLeap_eq_true_iff (year : Int) :
    isLeap year = true ↔ year % 4 = 0 ∧ (year % 100 ≠ 0 ∨ year % 400 = 0) := by
  simp [isLeap]

/-- A year has 365 days, and one more in a leap year. -/
theorem daysBeforeYear_succ (year : Int) :
    daysBeforeYear (year + 1) = daysBeforeYear year + if isLeap year then 366 else 365 := by
  have h := isLeap_eq_true_iff year
  simp only [daysBeforeYear]
  by_cases hl : isLeap year = true
  · have h' := h.1 hl
    simp only [hl, if_true]
    clear h hl
    omega
  · have h' := mt h.2 hl
    simp only [hl, Bool.false_eq_true, if_false]
    clear h hl
    omega

/-- The lengths of the months of a year sum up to its length. -/
theorem daysIn_monthLengths (year : Int) :
    daysIn (monthLengths year) = if isLeap year then 366 else 365 := by
  by_cases hl : isLeap year = true <;> simp [monthLengths, hl]

/-- Four years end in a leap year, unless a century ends with them and no era. -/
theorem isLeap_of_periods {y : Int} (era century group : Int)
    (h : y = 400 * era + 100 * century + 4 * group + 4)
    (hg : 0 ≤ group ∧ group ≤ 24) (hc : group < 24 ∨ century = 3) : isLeap y = true := by
  refine (isLeap_eq_true_iff y).2 ⟨by omega, ?_⟩
  by_cases h24 : group < 24
  · left
    have : y % 100 = 4 * group + 4 := by omega
    omega
  · right
    have : y = 400 * (era + 1) := by omega
    omega

/-- A day comes before the first day of the year after its own. -/
theorem lt_daysBeforeYear_yearOfDay (n : Int) : n < daysBeforeYear (yearOfDay n + 1) := by
  obtain ⟨era, century, group, year, rest, hc, hg, hy, he, hn, h0, hr⟩ := exists_periods n
  rw [daysBeforeYear_succ, daysBeforeYear_periods era century group year he hc hg hy]
  rcases hr with h | ⟨h, h3, hgc⟩
  · split <;> omega
  · rw [if_pos (isLeap_of_periods era century group (by omega) hg hgc)]
    omega

/-- Split a day into the index of the part it falls into and the day within that part, for parts of
the given lengths. -/
def splitDay : List Nat → Nat → Nat × Nat
  | [], day => (0, day)
  | length :: rest, day =>
    if day < length then (0, day)
    else
      let (index, day) := splitDay rest (day - length)
      (index + 1, day)

theorem splitDay_lt {lengths : List Nat} {day : Nat} (h : day < daysIn lengths) :
    (splitDay lengths day).1 < lengths.length ∧
      (splitDay lengths day).2 < lengths.getD (splitDay lengths day).1 0 ∧
      daysIn (lengths.take (splitDay lengths day).1) + (splitDay lengths day).2 = day := by
  induction lengths generalizing day with
  | nil => simp at h
  | cons length rest ih =>
    by_cases hd : day < length
    · simp [splitDay, hd]
    · rw [daysIn_cons] at h
      have := @ih (day - length) (by omega)
      simp only [splitDay, hd, if_false, List.length_cons, List.getD_cons_succ,
        List.take_succ_cons, daysIn_cons]
      omega

/-- The day of the year falls within the year. -/
theorem dayOfYear_lt (n : Int) :
    (n - daysBeforeYear (yearOfDay n)).toNat < daysIn (monthLengths (yearOfDay n)) := by
  have h1 := daysBeforeYear_yearOfDay_le n
  have h2 := lt_daysBeforeYear_yearOfDay n
  rw [daysBeforeYear_succ] at h2
  rw [daysIn_monthLengths]
  split at h2 <;> simp_all <;> omega

/-- The month and day of a day of a year exist. -/
theorem exists_splitDay {year : Int} {day : Nat} (h : day < daysIn (monthLengths year)) :
    Exists year ((splitDay (monthLengths year) day).1 + 1)
      ((splitDay (monthLengths year) day).2 + 1) := by
  have hs := splitDay_lt h
  have hl : (monthLengths year).length = 12 := rfl
  refine ⟨by omega, by omega, by omega, ?_⟩
  simp only [monthLength, Nat.add_one_ne_zero, if_false, Nat.add_sub_cancel]
  omega

/-- The date with a number. -/
def ofDayNumber (n : Int) : Date :=
  let year := yearOfDay (n + epochOffset)
  let dayOfYear := (n + epochOffset - daysBeforeYear year).toNat
  ⟨year, (splitDay (monthLengths year) dayOfYear).1 + 1,
    (splitDay (monthLengths year) dayOfYear).2 + 1, exists_splitDay (dayOfYear_lt _)⟩

/-- Every number is that of a date. -/
theorem dayNumber_ofDayNumber (n : Int) : (ofDayNumber n).dayNumber = n := by
  have h := splitDay_lt (dayOfYear_lt (n + epochOffset))
  have h1 := daysBeforeYear_yearOfDay_le (n + epochOffset)
  simp only [dayNumber, ofDayNumber, daysBeforeMonth, Nat.add_sub_cancel]
  omega

/-- The day of the week of a date, zero for Sunday. -/
def weekday (d : Date) : Nat :=
  ((d.dayNumber + 4) % 7).toNat

end Date

end FilterSql
