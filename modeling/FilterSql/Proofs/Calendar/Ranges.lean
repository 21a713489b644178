import FilterSql.Proofs.Calendar.Reckoning

/-!
# Ranges of months and years

The relative dates for months and years mean whole months and whole years: from the start of a month
to the last microsecond before the start of a later one. So the ranges follow one another without
gaps.

A moment lies in the range of its own month and year up to the last full microsecond: what is left
of that microsecond comes after the range.

## Main results

* `FilterSql.RelativeDate.months_and_years_tile`: the ranges of months and years.
-/

namespace FilterSql.RelativeDate

open Duration Timestamp

theorem months_snd_add (m n : Int) : (months m n).2 + micros 1 = startOf n :=
  congrArg Timestamp.mk (Int.sub_add_cancel _ _)

/-- At a moment of the years 1 to 9999 the ranges of the last, the current and the next month are
whole months that follow one another without a gap, and so are the ranges of the current and the
next year. The month and the year of the moment have its last full microsecond in them. The range of
two months reaches over both, and the one that ends two weeks after the month does so to the
microsecond. -/
theorem months_and_years_tile (now : Timestamp)
    (hyear : 1 ≤ now.date.year ∧ now.date.year ≤ 9999) :
    let m := now.date.monthNumber
    let year := now.date.year
    let last := months (m - 1) m
    let current := months m (m + 1)
    let next := months (m + 1) (m + 2)
    let thisYear := months (12 * year) (12 * (year + 1))
    let followingYear := months (12 * (year + 1)) (12 * (year + 2))
    (range .lastMonth now = some last ∧ range .currentMonth now = some current ∧
      range .nextMonth now = some next) ∧
    (last.2 + micros 1 = current.1 ∧ current.2 + micros 1 = next.1) ∧
    (current.1 ≤ now.truncate ∧ now.truncate ≤ current.2) ∧
    range .currentAndNextMonth now = some (current.1, next.2) ∧
    (range .currentYear now = some thisYear ∧ range .nextYear now = some followingYear) ∧
    (thisYear.1 ≤ now.truncate ∧ now.truncate ≤ thisYear.2) ∧
    thisYear.2 + micros 1 = followingYear.1 ∧
    range .twoWeeksPastEndOfMonth now = some (current.1, current.2 + days 14) := by
  intro m year last current next thisYear followingYear
  have hdiv : m / 12 = year := now.date.monthNumber_ediv
  have hrange (d : RelativeDate) : range d now = some (d.meaning now) := range_eq_meaning hyear d
  -- the moment lies in its month, which lies in its year
  have hmonth : startOf m ≤ now ∧ now < startOf (m + 1) := month_bounds now
  have hstart : startOf (12 * year) ≤ startOf m := startOf_mono (by omega)
  have hend : startOf (m + 1) ≤ startOf (12 * (year + 1)) := startOf_mono (by omega)
  have hinYear : startOf (12 * year) ≤ now ∧ now < startOf (12 * (year + 1)) :=
    ⟨Int.le_trans hstart hmonth.1, Int.lt_of_lt_of_le hmonth.2 hend⟩
  exact ⟨⟨hrange _, hrange _, hrange _⟩, ⟨months_snd_add _ _, months_snd_add _ _⟩,
    truncate_bounds hmonth, hrange _, ⟨hrange _, hrange _⟩, truncate_bounds hinYear,
    months_snd_add _ _, hrange _⟩

/-- In the last nanosecond of the 31st of January of a leap year the ranges reach back into the year
before and on to the 29th of February. -/
theorem months_and_years_tile_before_leap_day :
    let now := ofClock ⟨2024, 1, 31, by decide⟩ (24 * 3600 * 1000000000 - 1)
    let january : Timestamp × Timestamp :=
      (ofDate ⟨2024, 1, 1, by decide⟩, ofDate ⟨2024, 2, 1, by decide⟩ - micros 1)
    let february : Timestamp × Timestamp :=
      (ofDate ⟨2024, 2, 1, by decide⟩, ofDate ⟨2024, 3, 1, by decide⟩ - micros 1)
    (1 ≤ now.date.year ∧ now.date.year ≤ 9999) ∧
    range .lastMonth now =
      some (ofDate ⟨2023, 12, 1, by decide⟩, ofDate ⟨2024, 1, 1, by decide⟩ - micros 1) ∧
    (range .currentMonth now = some january ∧ now.truncate ≤ january.2) ∧
    range .nextMonth now = some february ∧
    range .currentAndNextMonth now = some (january.1, february.2) ∧
    range .currentYear now =
      some (ofDate ⟨2024, 1, 1, by decide⟩, ofDate ⟨2025, 1, 1, by decide⟩ - micros 1) := by
  intro now january february
  have hyear : 1 ≤ now.date.year ∧ now.date.year ≤ 9999 := by decide +kernel +zetaReduce
  have hjanuary : months now.date.monthNumber (now.date.monthNumber + 1) = january := by
    decide +kernel +zetaReduce
  have hfebruary : months (now.date.monthNumber + 1) (now.date.monthNumber + 2) = february := by
    decide +kernel +zetaReduce
  obtain ⟨⟨hlast, hcurrent, hnext⟩, -, ⟨-, hin⟩, hboth, ⟨hthisYear, -⟩, -⟩ :=
    months_and_years_tile now hyear
  rw [hjanuary] at hcurrent hin hboth
  rw [hfebruary] at hnext hboth
  refine ⟨hyear, hlast.trans ?_, ⟨hcurrent, hin⟩, hnext, hboth, hthisYear.trans ?_⟩
  all_goals decide +kernel +zetaReduce

/-- The last nanosecond of a year comes after the range of that year. -/
theorem currentYear_ends_before_last_nanosecond :
    let now := ofClock ⟨2026, 12, 31, by decide⟩ (24 * 3600 * 1000000000 - 1)
    (1 ≤ now.date.year ∧ now.date.year ≤ 9999) ∧
    ∃ first last, range .currentYear now = some (first, last) ∧ ¬ (first ≤ now ∧ now ≤ last) := by
  intro now
  have hyear : 1 ≤ now.date.year ∧ now.date.year ≤ 9999 := by decide +kernel +zetaReduce
  refine ⟨hyear, ofDate ⟨2026, 1, 1, by decide⟩, ofDate ⟨2027, 1, 1, by decide⟩ - micros 1,
    by decide +kernel +zetaReduce, fun h => ?_⟩
  have hlast : (ofDate ⟨2027, 1, 1, by decide⟩ - micros 1).nanos < now.nanos := by
    decide +kernel +zetaReduce
  exact absurd h.2 (Int.not_le.2 hlast)

end FilterSql.RelativeDate
