import FilterSql.Calendar.RelativeDate
import FilterSql.Proofs.Calendar.Moments

/-!
# What relative dates mean

A relative date means some days, weeks, months or years around a moment, or a stretch of time from
or to the moment itself. Its range is computed in another way: by going some time on or back from
moment to moment and by looking up dates, which may fail at the ends of the calendar. At the moments
of the years 1 to 9999 the computation does not fail and gives what the word means, for every word.

It is enough that the arithmetic is exact within the bounds of dates. So the same holds of a strict
arithmetic, on which nothing stands in for a date beyond the bounds: no step of the computation
leaves them.

At the ends of the calendar there may be no range. On the last day there is none for any word.

## Main definitions

* `FilterSql.RelativeDate.months`, `FilterSql.RelativeDate.wholeDays`: ranges of months and of days.
* `FilterSql.RelativeDate.meaning`: what a word means at a moment.
* `FilterSql.Reckoning.Exact`: an arithmetic that is exact within the bounds of dates.
* `FilterSql.Reckoning.strict`: the arithmetic that fails beyond the bounds.

## Main results

* `FilterSql.RelativeDate.rangeBy_eq_meaning`: the range of a word is what it means.
* `FilterSql.RelativeDate.range_eq_none`: on the last day of the calendar no word has a range.
-/

namespace FilterSql

open Duration

/-! ### The meaning of a word -/

namespace RelativeDate

open Timestamp

/-- The range from the start of a month to the last microsecond before the start of another one. -/
def months (m n : Int) : Timestamp × Timestamp :=
  (startOf m, startOf n - micros 1)

/-- The range from the midnight that a day starts with to the one that another day starts with. -/
def wholeDays (first last : Int) : Timestamp × Timestamp :=
  (midnight first, midnight last)

/-- What a word means at a moment. -/
def meaning (d : RelativeDate) (now : Timestamp) : Timestamp × Timestamp :=
  let month := now.date.monthNumber
  let year := now.date.year
  let day := now.date.dayNumber
  let sunday := now.date.sunday
  let nextMillennium := startOf (12 * (year + 1000))
  match d with
  | lastFullWeek => wholeDays (sunday - 7) sunday
  | lastTwoFullWeeks => wholeDays (sunday - 14) sunday
  | currentWeek => wholeDays sunday (sunday + 7)
  | nextWeek => wholeDays (sunday + 7) (sunday + 14)
  | yesterday => wholeDays (day - 1) day
  | today => wholeDays day (day + 1)
  | tomorrow => wholeDays (day + 1) (day + 2)
  | lastMonth => months (month - 1) month
  | currentMonth => months month (month + 1)
  | nextMonth => months (month + 1) (month + 2)
  | currentAndNextMonth => months month (month + 2)
  | twoWeeksPastEndOfMonth => (startOf month, startOf (month + 1) - micros 1 + days 14)
  | currentYear => months (12 * year) (12 * (year + 1))
  | nextYear => months (12 * (year + 1)) (12 * (year + 2))
  | last7Days => (now - days 7, now + seconds 3)
  | last14Days => (now - days 14, now + seconds 3)
  | last30Days => (now - days 30, now + seconds 3)
  | last45Days => (now - days 45, now + seconds 3)
  | last60Days => (now - days 60, now + seconds 3)
  | next7Days => (now, now + days 7)
  | next14Days => (now, now + days 14)
  | next30Days => (now, now + days 30)
  | next45Days => (now, now + days 45)
  | next60Days => (now, now + days 60)
  | past => (epoch, midnight day - micros 1)
  | pastAndToday => (epoch, now)
  | future => (now, nextMillennium)
  | futureAndToday => (midnight day, nextMillennium)
  | pastAndFuture => (epoch, nextMillennium)

variable {t : Timestamp} {m : Int}

theorem startOfMonth_eq (h : t.date.monthNumber = m) : startOfMonth t = startOf m := by
  rw [startOfMonth, ← Date.firstOf_monthNumber, h, startOf]

/-- The year and the month that follow those of a moment. -/
theorem nextMonth_eq (h : t.date.monthNumber = m) :
    (if t.date.month = 12 then (t.date.year + 1, 1) else (t.date.year, t.date.month + 1)) =
      ((Date.firstOf (m + 1)).year, (Date.firstOf (m + 1)).month) := by
  rw [Date.year_firstOf_succ, Date.month_firstOf_succ, ← h, Date.year_firstOf_monthNumber,
    Date.month_firstOf_monthNumber]
  split <;> rfl

end RelativeDate

/-! ### Exact arithmetics -/

namespace Reckoning

open Timestamp RelativeDate

/-- Within the bounds of dates an arithmetic reaches every moment and finds every date. -/
structure Exact (r : Reckoning Option) : Prop where
  later : ∀ {t : Timestamp} {d : Duration}, (t + d).Datable → r.later t d = some (t + d)
  earlier : ∀ {t : Timestamp} {d : Duration}, (t - d).Datable → r.earlier t d = some (t - d)
  ofYmd : ∀ {year : Int} {month day : Nat} {date : Date},
    Date.ofYmd? year month day = some date → r.ofYmd year month day = some date

/-- Neither a moment nor a date beyond the bounds can be reached. -/
def strict : Reckoning Option where
  __ := checked
  ofYmd := Date.ofYmd?

theorem exact_checked : checked.Exact where
  later h := if_pos h
  earlier h := if_pos h
  ofYmd h := congrArg (fun date : Option Date => some (date.getD Date.latest)) h

theorem exact_strict : strict.Exact where
  later := exact_checked.later
  earlier := exact_checked.earlier
  ofYmd h := h

variable {r : Reckoning Option} {t now : Timestamp} {m n : Int}

namespace Exact

variable (hr : r.Exact)

include hr

/-- A year starts with its first month. -/
theorem startOfYear_eq {year : Int} (h : Date.WithinBounds (12 * year)) :
    r.startOfYear year = some (startOf (12 * year)) := by
  have hfirst := Date.ofYmd?_firstOf h
  rw [Date.year_firstOf_mul, Date.month_firstOf_mul] at hfirst
  rw [startOfYear, hr.ofYmd hfirst]
  rfl

theorem earlier_startOf {d : Duration} (hpos : 0 < d) (hmost : d ≤ days 28)
    (h : Date.WithinBounds (m - 1)) : r.earlier (startOf m) d = some (startOf m - d) := by
  rw [← monthNumber_startOf_sub hpos hmost m, ← datable_iff_withinBounds] at h
  exact hr.earlier h

theorem endOfYear_eq {year : Int} (h : Date.WithinBounds (12 * (year + 1)))
    (h' : Date.WithinBounds (12 * (year + 1) - 1)) :
    r.endOfYear year = some (startOf (12 * (year + 1)) - micros 1) := by
  rw [endOfYear, hr.startOfYear_eq h]
  exact hr.earlier_startOf (by decide) (by decide) h'

theorem endOfMonth_eq (h : t.date.monthNumber = m) (hm : Date.WithinBounds m)
    (hnext : Date.WithinBounds (m + 1)) : r.endOfMonth t = some (startOf (m + 1) - micros 1) := by
  have hlast := hr.earlier_startOf (m := m + 1) (d := micros 1) (by decide) (by decide)
  rw [Int.add_sub_cancel] at hlast
  rw [endOfMonth, nextMonth_eq h]
  simp only [hr.ofYmd (Date.ofYmd?_firstOf hnext)]
  exact hlast hm

/-- The moment that lies some time after one whose month is known. -/
theorem later_of_month {d : Duration} (h : (t + d).date.monthNumber = m)
    (hm : Date.WithinBounds m) : r.later t d = some (t + d) :=
  hr.later (datable_iff_withinBounds.2 (h ▸ hm))

section

variable (hyear : 1 ≤ now.date.year ∧ now.date.year ≤ 9999)

include hyear

theorem later_of_near {k : Duration} (hleast : now.nanos - days 800 ≤ t.nanos + k)
    (hmost : t.nanos + k ≤ now.nanos + days 800) : r.later t k = some (t + k) :=
  hr.later (datable_of_near hyear hleast hmost)

theorem earlier_of_near {k : Duration} (hleast : now.nanos - days 800 ≤ t.nanos - k)
    (hmost : t.nanos - k ≤ now.nanos + days 800) : r.earlier t k = some (t - k) :=
  hr.earlier (datable_of_near hyear hleast hmost)

/-- From a midnight that is not far away one gets to another one. -/
theorem later_midnight {k : Int} (hleast : now.date.dayNumber - 700 ≤ n + k)
    (hmost : n + k ≤ now.date.dayNumber + 700) :
    r.later (midnight n) (days k) = some (midnight (n + k)) := by
  have hday := midnight_bounds now
  rw [midnight_add]
  refine hr.later_of_near hyear ?_ ?_
  all_goals
    simp only [le_iff, lt_iff, nanos_midnight, days] at *
    omega

theorem earlier_midnight {k : Int} (hleast : now.date.dayNumber - 700 ≤ n - k)
    (hmost : n - k ≤ now.date.dayNumber + 700) :
    r.earlier (midnight n) (days k) = some (midnight (n - k)) := by
  have hday := midnight_bounds now
  rw [midnight_sub]
  refine hr.earlier_of_near hyear ?_ ?_
  all_goals
    simp only [le_iff, lt_iff, nanos_midnight, days] at *
    omega

end

end Exact

end Reckoning

/-! ### Ranges -/

namespace RelativeDate

open Timestamp

variable {r : Reckoning Option} {now : Timestamp}

/-- At a moment of the years 1 to 9999 the range of a word, found with an exact arithmetic, is what
the word means. -/
theorem rangeBy_eq_meaning (hr : r.Exact) (hyear : 1 ≤ now.date.year ∧ now.date.year ≤ 9999)
    (d : RelativeDate) : d.rangeBy r now = some (d.meaning now) := by
  obtain ⟨-, hfrom, hto⟩ := now.date.weekday_sunday
  have hdiv := now.date.monthNumber_ediv
  have hbounds {n : Int} (hn : 12 * now.date.year - 12 ≤ n ∧ n ≤ 12 * (now.date.year + 1000)) :
      Date.WithinBounds n := by
    simp only [Date.WithinBounds, Date.minYear, Date.maxYear]
    omega
  have hday : startOfDay now = midnight now.date.dayNumber := ofDate_eq_midnight _
  have hdayEnd := hr.later_midnight hyear (n := now.date.dayNumber) (k := 1) (by omega) (by omega)
  have hweek := hr.earlier_midnight hyear (n := now.date.dayNumber) (k := now.date.weekday)
    (by rw [Date.sunday] at hto; omega) (by omega)
  have hfuture := hr.startOfYear_eq (hbounds (n := 12 * (now.date.year + 1000)) (by omega))
  have hrange : d.rangeBy r now = d.rangeFrom r (midnight now.date.dayNumber)
      (midnight (now.date.dayNumber + 1)) (midnight now.date.sunday)
      (startOf (12 * (now.date.year + 1000))) now := by
    simp only [rangeBy, hday, hdayEnd, hweek, hfuture, Option.bind_eq_bind, Option.bind_some]
    rfl
  rw [hrange]
  have hstart : startOfMonth now = startOf now.date.monthNumber := startOfMonth_eq rfl
  have hend := hr.endOfMonth_eq (t := now) rfl (hbounds (by omega)) (hbounds (by omega))
  cases d with
  | pastAndToday | future | futureAndToday | today | pastAndFuture => rfl
  | lastFullWeek | lastTwoFullWeeks | nextWeek | currentWeek | yesterday =>
    simp (disch := omega) only [rangeFrom, hr.later_midnight hyear, hr.earlier_midnight hyear,
      Option.bind_eq_bind, Option.bind_some]
    rfl
  | tomorrow =>
    have hnext := hr.later_midnight hyear (n := now.date.dayNumber + 1) (k := 1) (by omega)
      (by omega)
    simp only [Int.add_assoc, Int.reduceAdd] at hnext
    simp only [rangeFrom, hnext, Option.bind_eq_bind, Option.bind_some]
    rfl
  | last7Days | last14Days | last30Days | last45Days | last60Days | next7Days | next14Days
  | next30Days | next45Days | next60Days =>
    simp (disch := (simp only [grace, days, seconds]; omega)) only [rangeFrom,
      hr.later_of_near hyear, hr.earlier_of_near hyear, Option.bind_eq_bind, Option.bind_some]
    rfl
  | past =>
    have hbefore := midnight_bounds now
    simp only [le_iff, lt_iff, nanos_midnight, days] at hbefore
    simp (disch := (simp only [nanos_midnight, days, micros]; omega)) only [rangeFrom,
      hr.earlier_of_near hyear, Option.bind_eq_bind, Option.bind_some]
    rfl
  | currentYear =>
    have hfirst := hr.startOfYear_eq (hbounds (n := 12 * now.date.year) (by omega))
    have hlast := hr.endOfYear_eq (hbounds (n := 12 * (now.date.year + 1)) (by omega))
      (hbounds (by omega))
    simp only [rangeFrom, hfirst, hlast, Option.bind_eq_bind, Option.bind_some]
    rfl
  | nextYear =>
    have hfirst := hr.startOfYear_eq (hbounds (n := 12 * (now.date.year + 1)) (by omega))
    have hlast := hr.endOfYear_eq (hbounds (n := 12 * (now.date.year + 1 + 1)) (by omega))
      (hbounds (by omega))
    simp only [rangeFrom, hfirst, hlast, Option.bind_eq_bind, Option.bind_some, Int.add_assoc,
      Int.reduceAdd]
    rfl
  | currentMonth =>
    simp only [rangeFrom, hstart, hend, Option.bind_eq_bind, Option.bind_some]
    rfl
  | twoWeeksPastEndOfMonth =>
    have hlater := hr.later_of_month
      (monthNumber_end_add (d := days 14) (by decide) (by decide) (now.date.monthNumber + 1))
      (hbounds (by omega))
    simp only [rangeFrom, hstart, hend, hlater, Option.bind_eq_bind, Option.bind_some]
    rfl
  | currentAndNextMonth =>
    have hnext := monthNumber_startOf_add_days now.date.monthNumber
    have hlater := hr.later_of_month hnext (hbounds (by omega))
    have hlast := hr.endOfMonth_eq hnext (hbounds (by omega)) (hbounds (by omega))
    simp only [rangeFrom, hstart, hlater, hlast, Option.bind_eq_bind, Option.bind_some,
      Int.add_assoc, Int.reduceAdd]
    rfl
  | lastMonth =>
    have hbefore := monthNumber_startOf_sub (d := days 2) (by decide) (by decide)
      now.date.monthNumber
    have hearlier := hr.earlier_startOf (d := days 2) (by decide) (by decide)
      (hbounds (n := now.date.monthNumber - 1) (by omega))
    have hlast := hr.endOfMonth_eq hbefore (hbounds (by omega)) (hbounds (by omega))
    simp only [rangeFrom, hstart, hearlier, startOfMonth_eq hbefore, hlast, Option.bind_eq_bind,
      Option.bind_some, Int.sub_add_cancel]
    rfl
  | nextMonth =>
    have hnext := monthNumber_end_add (d := days 2) (by decide) (by decide)
      (now.date.monthNumber + 1)
    have hlater := hr.later_of_month hnext (hbounds (by omega))
    have hlast := hr.endOfMonth_eq hnext (hbounds (by omega)) (hbounds (by omega))
    simp only [rangeFrom, hend, hlater, startOfMonth_eq hnext, hlast, Option.bind_eq_bind,
      Option.bind_some, Int.add_assoc, Int.reduceAdd]
    rfl

/-- At a moment of the years 1 to 9999 the range of a word is what the word means. -/
theorem range_eq_meaning (hyear : 1 ≤ now.date.year ∧ now.date.year ≤ 9999) (d : RelativeDate) :
    d.range now = some (d.meaning now) :=
  rangeBy_eq_meaning Reckoning.exact_checked hyear d

/-- On the last day of the calendar no word has a range, since the end of that day cannot be
reached. -/
theorem range_eq_none (h : now.date = Date.latest) (d : RelativeDate) : d.range now = none := by
  have hlate : ¬ (startOfDay now + days 1).Datable := by
    rw [startOfDay, h]
    decide +kernel
  have hdayEnd : Reckoning.checked.later (startOfDay now) (days 1) = none := if_neg hlate
  rw [range, rangeBy, hdayEnd]
  rfl

end RelativeDate

end FilterSql
