import FilterSql.Calendar.Timestamp
import FilterSql.Proofs.Calendar.Months

/-!
# Moments and their months, weeks and days

A moment lies in the month that starts at it or before it, and before the next one starts; in the
same way it lies between two midnights, and between two Sundays. So the month of a moment that is
reached from the bounds of another month is known from the lengths of months alone: two days reach
from the bounds of a month into the month before or after, and forty-five days from the start of a
month reach into the next one.

## Main definitions

* `FilterSql.Timestamp.startOf`: the start of the month with a number.
* `FilterSql.Timestamp.midnight`: the start of the day with a number.
* `FilterSql.Timestamp.truncate`: the last full microsecond of a moment.
* `FilterSql.Date.sunday`: the number of the Sunday that the week of a date starts with.

## Main results

* `FilterSql.Timestamp.monthNumber_eq_iff`: the moments of a month.
* `FilterSql.Timestamp.midnight_bounds`: a moment lies between two midnights.
* `FilterSql.Timestamp.datable_of_near`: dates can be written around the years 1 to 9999.
-/

namespace FilterSql

open Duration

/-! ### The Sunday of a week -/

namespace Date

theorem weekday_ofDayNumber (n : Int) : ((ofDayNumber n).weekday : Int) = (n + 4) % 7 := by
  rw [weekday, dayNumber_ofDayNumber]
  omega

/-- The number of the Sunday that the week of a date starts with. -/
def sunday (d : Date) : Int :=
  d.dayNumber - d.weekday

/-- The Sunday of a week is a Sunday, up to six days before each of its days. -/
theorem weekday_sunday (d : Date) :
    (ofDayNumber d.sunday).weekday = 0 ∧ d.sunday ≤ d.dayNumber ∧ d.dayNumber < d.sunday + 7 := by
  have hsunday := weekday_ofDayNumber d.sunday
  simp only [sunday, weekday] at *
  omega

/-- The eleventh of October 2026 starts a week, which the fourteenth lies in. -/
example : (⟨2026, 10, 14, by decide⟩ : Date).sunday = dayNumber ⟨2026, 10, 11, by decide⟩ := by
  decide

end Date

namespace Timestamp

variable {s t now : Timestamp} {m n : Int}

theorem le_iff : s ≤ t ↔ s.nanos ≤ t.nanos := Iff.rfl

theorem lt_iff : s < t ↔ s.nanos < t.nanos := Iff.rfl

theorem ofDate_le_iff {d : Date} : ofDate d ≤ t ↔ d.dayNumber ≤ t.date.dayNumber := by
  rw [date, Date.dayNumber_ofDayNumber, Int.le_ediv_iff_mul_le (by decide)]
  rfl

theorem lt_ofDate_iff {d : Date} : t < ofDate d ↔ t.date.dayNumber < d.dayNumber := by
  rw [date, Date.dayNumber_ofDayNumber, Int.ediv_lt_iff_lt_mul (by decide)]
  rfl

/-! ### Midnights -/

/-- The start of the day with a number. -/
def midnight (n : Int) : Timestamp :=
  ofDate (Date.ofDayNumber n)

@[simp] theorem nanos_midnight (n : Int) : (midnight n).nanos = days n := by
  rw [midnight, ofDate, Date.dayNumber_ofDayNumber]

theorem midnight_add (n k : Int) : midnight (n + k) = midnight n + days k := by
  refine congrArg Timestamp.mk (?_ : days _ = days _ + days _)
  simp only [Date.dayNumber_ofDayNumber, days, Int.add_mul]

theorem midnight_sub (n k : Int) : midnight (n - k) = midnight n - days k := by
  refine congrArg Timestamp.mk (?_ : days _ = days _ - days _)
  simp only [Date.dayNumber_ofDayNumber, days, Int.sub_mul]

theorem midnight_mono (h : m ≤ n) : midnight m ≤ midnight n := by
  simp only [le_iff, nanos_midnight, days]
  omega

theorem ofDate_eq_midnight (d : Date) : ofDate d = midnight d.dayNumber := by
  refine congrArg Timestamp.mk ?_
  rw [Date.dayNumber_ofDayNumber]

/-- A moment lies from the midnight before its day, but not up to the midnight after it. -/
theorem midnight_bounds (t : Timestamp) :
    midnight t.date.dayNumber ≤ t ∧ t < midnight (t.date.dayNumber + 1) := by
  simp only [le_iff, lt_iff, nanos_midnight, date, Date.dayNumber_ofDayNumber, days]
  omega

/-! ### Moments of months -/

/-- The start of the month with a number. -/
def startOf (m : Int) : Timestamp :=
  ofDate (Date.firstOf m)

/-- The last full microsecond of a moment. -/
def truncate (t : Timestamp) : Timestamp :=
  ⟨t.nanos - t.nanos % micros 1⟩

/-- The moments of a month are those from its start to that of the next one. -/
theorem monthNumber_eq_iff : t.date.monthNumber = m ↔ startOf m ≤ t ∧ t < startOf (m + 1) := by
  rw [startOf, startOf, ofDate_le_iff, lt_ofDate_iff]
  exact Date.monthNumber_eq_iff

/-- A moment lies within its month. -/
theorem month_bounds (t : Timestamp) :
    startOf t.date.monthNumber ≤ t ∧ t < startOf (t.date.monthNumber + 1) :=
  monthNumber_eq_iff.1 rfl

/-- Months start 28 to 31 days after one another. -/
theorem nanos_startOf_succ (m : Int) :
    ∃ length : Int, 28 ≤ length ∧ length ≤ 31 ∧
      (startOf (m + 1)).nanos = (startOf m).nanos + days length := by
  have hreal := (Date.firstOf m).real
  have hlength := Date.monthLength_bounds (Date.firstOf m).year ⟨hreal.1, hreal.2.1⟩
  refine ⟨Date.monthLength (Date.firstOf m).year (Date.firstOf m).month, by omega, by omega, ?_⟩
  simp only [startOf, ofDate, Date.dayNumber_firstOf_succ, days]
  omega

theorem startOf_mono (h : m ≤ n) : startOf m ≤ startOf n := by
  have hdays : (Date.firstOf m).dayNumber ≤ (Date.firstOf n).dayNumber :=
    Int.not_lt.1 (mt Date.dayNumber_firstOf_lt_iff.1 (Int.not_lt.2 h))
  exact Int.mul_le_mul_of_nonneg_right hdays (by decide)

theorem startOf_le_iff : startOf m ≤ t ↔ m ≤ t.date.monthNumber := by
  obtain ⟨hstart, hend⟩ := month_bounds t
  constructor
  · intro h
    by_contra hlt
    have hnext : startOf (t.date.monthNumber + 1) ≤ startOf m := startOf_mono (by omega)
    simp only [le_iff, lt_iff] at *
    omega
  · exact fun h => Int.le_trans (startOf_mono h) hstart

theorem lt_startOf_iff : t < startOf m ↔ t.date.monthNumber < m := by
  rw [← Int.not_le, ← startOf_le_iff]
  exact Int.not_le.symm

/-- Months start with a full microsecond. -/
theorem nanos_startOf_emod (m : Int) : (startOf m).nanos % micros 1 = 0 := by
  simp only [startOf, ofDate, days, micros]
  omega

/-- The last full microsecond of a moment that lies between two months is in the range from the
first one to the last microsecond before the other one. -/
theorem truncate_bounds (h : startOf m ≤ t ∧ t < startOf n) :
    startOf m ≤ t.truncate ∧ t.truncate ≤ startOf n - micros 1 := by
  have hm := nanos_startOf_emod m
  have hn := nanos_startOf_emod n
  simp only [le_iff, lt_iff, truncate, nanos_sub, micros] at *
  omega

/-! ### Going to the next month -/

/-- Up to 28 days before the start of a month it is the month before. -/
theorem monthNumber_startOf_sub {d : Int} (hpos : 0 < d) (hmost : d ≤ days 28) (m : Int) :
    (startOf m - d).date.monthNumber = m - 1 := by
  obtain ⟨length, hleast, -, hlength⟩ := nanos_startOf_succ (m - 1)
  rw [monthNumber_eq_iff]
  simp only [Int.sub_add_cancel, le_iff, lt_iff, nanos_sub, days] at *
  omega

/-- Less than 28 days after the start of a month it is that month. -/
theorem monthNumber_startOf_add {d : Int} (hleast : 0 ≤ d) (hmost : d < days 28) (m : Int) :
    (startOf m + d).date.monthNumber = m := by
  obtain ⟨length, hlength, -, hnext⟩ := nanos_startOf_succ m
  rw [monthNumber_eq_iff]
  simp only [le_iff, lt_iff, nanos_add, days] at *
  omega

/-- From a microsecond to 28 days after the last microsecond before a month it is that month. -/
theorem monthNumber_end_add {d : Int} (hleast : 0 ≤ d - micros 1) (hmost : d ≤ days 28) (m : Int) :
    (startOf m - micros 1 + d).date.monthNumber = m := by
  have hsum : startOf m - micros 1 + d = startOf m + (d - micros 1) :=
    congrArg Timestamp.mk (by simp only [nanos_sub]; omega)
  rw [hsum]
  exact monthNumber_startOf_add hleast (by simp only [micros, days] at *; omega) m

/-- Forty-five days after the start of a month it is the next month. -/
theorem monthNumber_startOf_add_days (m : Int) :
    (startOf m + days 45).date.monthNumber = m + 1 := by
  obtain ⟨length, hleast, hmost, hlength⟩ := nanos_startOf_succ m
  obtain ⟨length', hleast', -, hlength'⟩ := nanos_startOf_succ (m + 1)
  rw [monthNumber_eq_iff]
  simp only [le_iff, lt_iff, nanos_add, days] at hlength hlength' ⊢
  omega

/-! ### Moments within the bounds -/

theorem datable_iff_withinBounds : t.Datable ↔ Date.WithinBounds t.date.monthNumber := by
  rw [Date.WithinBounds, t.date.monthNumber_ediv, Datable]

/-- Dates can be written from the first month within the bounds to the last one. -/
theorem datable_iff :
    t.Datable ↔ startOf (12 * Date.minYear) ≤ t ∧ t < startOf (12 * (Date.maxYear + 1)) := by
  have hyear := t.date.monthNumber_ediv
  rw [startOf_le_iff, lt_startOf_iff, Datable]
  omega

/-- Some years to both sides of the years 1 to 9999 dates can be written as well. -/
theorem datable_of_near (hyear : 1 ≤ now.date.year ∧ now.date.year ≤ 9999)
    (hleast : now.nanos - days 800 ≤ t.nanos) (hmost : t.nanos ≤ now.nanos + days 800) :
    t.Datable := by
  have hmonth := now.date.monthNumber_ediv
  have hfirst : startOf 12 ≤ now := startOf_le_iff.2 (by omega)
  have hlast : now < startOf 120000 := lt_startOf_iff.2 (by omega)
  have hnear : (startOf 12).nanos = days (-719162) ∧ (startOf 120000).nanos = days 2932897 := by
    decide +kernel
  have hfar : (startOf (12 * Date.minYear)).nanos = days (-96465292) ∧
      (startOf (12 * (Date.maxYear + 1))).nanos = days 95026237 := by
    decide +kernel
  rw [datable_iff]
  simp only [le_iff, lt_iff, days] at *
  omega

theorem date_ofDate_latest : (ofDate Date.latest).date = Date.latest := by
  decide +kernel

/-- The last day of the calendar is one whose date can be written. -/
theorem datable_ofDate_latest : (ofDate Date.latest).Datable := by
  rw [Datable, date_ofDate_latest]
  decide

end Timestamp

end FilterSql
