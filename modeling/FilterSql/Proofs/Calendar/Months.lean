import FilterSql.Calendar.Date
import Mathlib.Data.List.GetD
import Mathlib.Order.Monotone.Basic

/-!
# Months

The months of all years follow one another, so they are numbered in one row, twelve for each year. A
month reaches from its first day to the one before the first day of the next month, 28 to 31 days
later. So the first days grow with the numbers of their months, and each date lies in just one
month.

## Main definitions

* `FilterSql.Date.monthNumber`: the number of the month of a date.
* `FilterSql.Date.firstOf`: the first day of the month with a number.

## Main results

* `FilterSql.Date.firstOf_monthNumber`: the first day of the month of a date.
* `FilterSql.Date.dayNumber_firstOf_succ`: the first days of two months are the length of the first
  one apart.
* `FilterSql.Date.monthNumber_eq_iff`: the dates of a month lie between its first day and that of
  the next one.
-/

namespace FilterSql.Date

/-! ### The lengths of months -/

theorem monthLength_bounds (year : Int) {month : Nat} (h : 1 ≤ month ∧ month ≤ 12) :
    28 ≤ monthLength year month ∧ monthLength year month ≤ 31 := by
  have hall : ∀ length ∈ monthLengths year, 28 ≤ length ∧ length ≤ 31 := by
    cases hleap : isLeap year <;> simp [monthLengths, hleap]
  have hindex : month - 1 < (monthLengths year).length := by
    have hlength : (monthLengths year).length = 12 := rfl
    omega
  rw [monthLength, if_neg (by omega), List.getD_eq_getElem _ _ hindex]
  exact hall _ (List.getElem_mem hindex)

theorem daysIn_take_succ (lengths : List Nat) (k : Nat) :
    daysIn (lengths.take (k + 1)) = daysIn (lengths.take k) + lengths.getD k 0 := by
  induction lengths generalizing k with
  | nil => simp
  | cons length rest ih =>
    cases k with
    | zero => simp
    | succ k => simp [ih k, Nat.add_assoc]

/-- The days before the next month, which may be the first one of the next year. -/
theorem daysBeforeMonth_succ (year : Int) {month : Nat} (h : 1 ≤ month) :
    daysBeforeMonth year (month + 1) = daysBeforeMonth year month + monthLength year month := by
  obtain ⟨k, rfl⟩ := Nat.exists_eq_add_of_le' h
  exact daysIn_take_succ (monthLengths year) k

/-! ### The row of months -/

/-- The number of the month of a date. The months of the year zero have the numbers zero to
eleven. -/
def monthNumber (d : Date) : Int :=
  12 * d.year + (d.month - 1 : Nat)

/-- The first day of the month with a number. -/
def firstOf (m : Int) : Date where
  year := m / 12
  month := (m % 12).toNat + 1
  day := 1
  real := by
    have hmonth : 1 ≤ (m % 12).toNat + 1 ∧ (m % 12).toNat + 1 ≤ 12 := by omega
    exact ⟨hmonth.1, hmonth.2, Nat.le_refl 1,
      Nat.le_trans (by decide) (monthLength_bounds _ hmonth).1⟩

theorem year_firstOf_monthNumber (d : Date) : (firstOf d.monthNumber).year = d.year := by
  have hmonth := d.real
  simp only [Exists] at hmonth
  simp only [firstOf, monthNumber]
  omega

theorem month_firstOf_monthNumber (d : Date) : (firstOf d.monthNumber).month = d.month := by
  have hmonth := d.real
  simp only [Exists] at hmonth
  simp only [firstOf, monthNumber]
  omega

theorem year_firstOf_mul (year : Int) : (firstOf (12 * year)).year = year := by
  simp only [firstOf]
  omega

theorem month_firstOf_mul (year : Int) : (firstOf (12 * year)).month = 1 := by
  simp only [firstOf]
  omega

theorem eq_of_parts {d e : Date} (hyear : d.year = e.year) (hmonth : d.month = e.month)
    (hday : d.day = e.day) : d = e := by
  cases d
  cases e
  simp_all

theorem monthNumber_ediv (d : Date) : d.monthNumber / 12 = d.year :=
  year_firstOf_monthNumber d

/-- The first day of the month of a date. -/
theorem firstOf_monthNumber (d : Date) : firstOf d.monthNumber = d.firstOfMonth :=
  eq_of_parts (year_firstOf_monthNumber d) (month_firstOf_monthNumber d) rfl

/-- A date of a year within the bounds can be written. -/
theorem ofYmd?_eq_some {d : Date} (h : minYear ≤ d.year ∧ d.year ≤ maxYear) :
    ofYmd? d.year d.month d.day = some d := by
  rw [ofYmd?, dif_pos d.real, if_pos h]

/-- The year of a month is within the bounds. -/
def WithinBounds (m : Int) : Prop :=
  minYear ≤ m / 12 ∧ m / 12 ≤ maxYear

theorem ofYmd?_firstOf {m : Int} (h : WithinBounds m) :
    ofYmd? (firstOf m).year (firstOf m).month 1 = some (firstOf m) :=
  ofYmd?_eq_some h

/-! ### From month to month -/

/-- The days before the first one of a month. -/
theorem dayNumber_firstOf (m : Int) :
    (firstOf m).dayNumber =
      daysBeforeYear (firstOf m).year + daysBeforeMonth (firstOf m).year (firstOf m).month -
        epochOffset :=
  congrArg (· - epochOffset) (Int.add_zero _)

/-- After the last month of a year comes the first one of the next year. -/
theorem year_firstOf_succ (m : Int) :
    (firstOf (m + 1)).year =
      if (firstOf m).month = 12 then (firstOf m).year + 1 else (firstOf m).year := by
  split
  all_goals
    simp only [firstOf] at *
    omega

theorem month_firstOf_succ (m : Int) :
    (firstOf (m + 1)).month = if (firstOf m).month = 12 then 1 else (firstOf m).month + 1 := by
  split
  all_goals
    simp only [firstOf] at *
    omega

/-- The first day of the next month comes after the days of a month. -/
theorem dayNumber_firstOf_succ (m : Int) :
    (firstOf (m + 1)).dayNumber =
      (firstOf m).dayNumber + monthLength (firstOf m).year (firstOf m).month := by
  have hlength := daysBeforeMonth_succ (firstOf m).year (firstOf m).real.1
  rw [dayNumber_firstOf, dayNumber_firstOf, year_firstOf_succ, month_firstOf_succ]
  by_cases hlast : (firstOf m).month = 12
  · -- the days of the months up to December are those of the year
    have hdays : (daysBeforeMonth (firstOf m).year ((firstOf m).month + 1) : Int) =
        if isLeap (firstOf m).year then 366 else 365 := by
      have hall : daysBeforeMonth (firstOf m).year 13 = daysIn (monthLengths (firstOf m).year) :=
        rfl
      rw [hlast, hall, daysIn_monthLengths]
      split <;> rfl
    have hnone : daysBeforeMonth ((firstOf m).year + 1) 1 = 0 := rfl
    rw [if_pos hlast, if_pos hlast, hnone, daysBeforeYear_succ, ← hdays, hlength]
    omega
  · rw [if_neg hlast, if_neg hlast, hlength]
    omega

theorem dayNumber_firstOf_lt_succ (m : Int) :
    (firstOf m).dayNumber < (firstOf (m + 1)).dayNumber := by
  have hreal := (firstOf m).real
  have hlength := (monthLength_bounds (firstOf m).year ⟨hreal.1, hreal.2.1⟩).1
  rw [dayNumber_firstOf_succ]
  omega

/-- Later months start later. -/
theorem dayNumber_firstOf_lt_iff {m n : Int} :
    (firstOf m).dayNumber < (firstOf n).dayNumber ↔ m < n :=
  (strictMono_int_of_lt_succ dayNumber_firstOf_lt_succ).lt_iff_lt

/-- The dates of a month are those from its first day to the one before that of the next month. -/
theorem monthNumber_eq_iff {d : Date} {m : Int} :
    d.monthNumber = m ↔
      (firstOf m).dayNumber ≤ d.dayNumber ∧ d.dayNumber < (firstOf (m + 1)).dayNumber := by
  have hown : (firstOf d.monthNumber).dayNumber ≤ d.dayNumber ∧
      d.dayNumber < (firstOf (d.monthNumber + 1)).dayNumber := by
    obtain ⟨-, -, hleast, hmost⟩ := d.real
    rw [dayNumber_firstOf_succ, dayNumber_firstOf, year_firstOf_monthNumber,
      month_firstOf_monthNumber, dayNumber]
    omega
  constructor
  · rintro rfl
    exact hown
  · rintro ⟨hfirst, hlast⟩
    have hle : d.monthNumber < m + 1 :=
      dayNumber_firstOf_lt_iff.1 (Int.lt_of_le_of_lt hown.1 hlast)
    have hge : m < d.monthNumber + 1 :=
      dayNumber_firstOf_lt_iff.1 (Int.lt_of_le_of_lt hfirst hown.2)
    omega

end FilterSql.Date
