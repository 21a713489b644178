import FilterSql.Proofs.Calendar.Reckoning

/-!
# Ranges of weeks and days

The relative dates for weeks and days mean whole days, from a midnight to a midnight. A week starts
with the Sunday that is found by going back from a day by the number of its day of the week, so each
day lies in the seven days from its Sunday on, and the ranges of the weeks and those of the days
follow one another without gaps. Other than a range of months, a range of days reaches up to the
midnight that the next one starts with.

## Main results

* `FilterSql.RelativeDate.weeks_and_days_follow`: the ranges of weeks and days.
-/

namespace FilterSql.RelativeDate

open Duration Timestamp

/-- At a moment of the years 1 to 9999 every range is found within the bounds of dates. The range of
the current week starts at the midnight of a Sunday; those of the last week, of the last two weeks
and of the next week are the weeks next to it. Yesterday, today and tomorrow are the days next to
one another. The moment lies in today, and today in the current week. -/
theorem weeks_and_days_follow (now : Timestamp)
    (hyear : 1 ≤ now.date.year ∧ now.date.year ≤ 9999) :
    let sunday := now.date.sunday
    let day := now.date.dayNumber
    let week := wholeDays sunday (sunday + 7)
    let lastWeek := wholeDays (sunday - 7) sunday
    let lastTwoWeeks := wholeDays (sunday - 14) sunday
    let followingWeek := wholeDays (sunday + 7) (sunday + 14)
    let dayBefore := wholeDays (day - 1) day
    let thisDay := wholeDays day (day + 1)
    let dayAfter := wholeDays (day + 1) (day + 2)
    (∀ d, ∃ first last,
      rangeBy .strict d now = some (first, last) ∧ range d now = some (first, last)) ∧
    ((Date.ofDayNumber sunday).weekday = 0 ∧
      range .currentWeek now = some week ∧ range .lastFullWeek now = some lastWeek ∧
      range .lastTwoFullWeeks now = some lastTwoWeeks ∧
      range .nextWeek now = some followingWeek) ∧
    (lastWeek.2 = week.1 ∧ lastTwoWeeks.2 = week.1 ∧ week.2 = followingWeek.1) ∧
    (week.2 = week.1 + days 7 ∧ lastWeek.2 = lastWeek.1 + days 7 ∧
      lastTwoWeeks.2 = lastTwoWeeks.1 + days 14 ∧
      followingWeek.2 = followingWeek.1 + days 7) ∧
    (range .yesterday now = some dayBefore ∧ range .today now = some thisDay ∧
      range .tomorrow now = some dayAfter) ∧
    (dayBefore.2 = thisDay.1 ∧ thisDay.2 = dayAfter.1) ∧
    (dayBefore.2 = dayBefore.1 + days 1 ∧ thisDay.2 = thisDay.1 + days 1 ∧
      dayAfter.2 = dayAfter.1 + days 1) ∧
    (thisDay.1 ≤ now ∧ now < thisDay.2) ∧
    (week.1 ≤ thisDay.1 ∧ thisDay.2 ≤ week.2) ∧
    (week.1 ≤ now ∧ now < week.2) := by
  intro sunday day week lastWeek lastTwoWeeks followingWeek dayBefore thisDay dayAfter
  obtain ⟨hsunday, hfrom, hto⟩ := now.date.weekday_sunday
  have hrange (d : RelativeDate) : range d now = some (d.meaning now) := range_eq_meaning hyear d
  have hday : midnight day ≤ now ∧ now < midnight (day + 1) := midnight_bounds now
  have hstart : midnight sunday ≤ midnight day := midnight_mono hfrom
  have hend : midnight (day + 1) ≤ midnight (sunday + 7) := midnight_mono hto
  have hlength {first last k : Int} (h : first + k = last) :
      (wholeDays first last).2 = (wholeDays first last).1 + days k := by
    rw [wholeDays, ← h]
    exact midnight_add first k
  exact ⟨fun d => ⟨_, _, rangeBy_eq_meaning Reckoning.exact_strict hyear d, hrange d⟩,
    ⟨hsunday, hrange _, hrange _, hrange _, hrange _⟩, ⟨rfl, rfl, rfl⟩,
    ⟨hlength rfl, hlength (by omega), hlength (by omega), hlength (by omega)⟩,
    ⟨hrange _, hrange _, hrange _⟩, ⟨rfl, rfl⟩,
    ⟨hlength (by omega), hlength rfl, hlength (by omega)⟩, hday, ⟨hstart, hend⟩,
    Int.le_trans hstart hday.1, Int.lt_of_lt_of_le hday.2 hend⟩

/-- In the last nanosecond of the year 1999, a Friday, the week reaches from the 26th of December to
the first of January, and the last two weeks start on the twelfth of December. -/
theorem weeks_and_days_follow_across_new_year :
    let now := ofClock ⟨1999, 12, 31, by decide⟩ (24 * 3600 * 1000000000 - 1)
    let week : Timestamp × Timestamp :=
      (ofDate ⟨1999, 12, 26, by decide⟩, ofDate ⟨2000, 1, 2, by decide⟩)
    let newYearsEve : Timestamp × Timestamp :=
      (ofDate ⟨1999, 12, 31, by decide⟩, ofDate ⟨2000, 1, 1, by decide⟩)
    (1 ≤ now.date.year ∧ now.date.year ≤ 9999) ∧
    range .currentWeek now = some week ∧
    range .lastTwoFullWeeks now = some (ofDate ⟨1999, 12, 12, by decide⟩, week.1) ∧
    range .tomorrow now = some (newYearsEve.2, week.2) ∧
    range .today now = some newYearsEve ∧ now < newYearsEve.2 ∧ newYearsEve.2 ≤ week.2 := by
  intro now week newYearsEve
  have hyear : 1 ≤ now.date.year ∧ now.date.year ≤ 9999 := by decide +kernel +zetaReduce
  obtain ⟨-, ⟨-, hweek, -, htwo, -⟩, -, -, ⟨-, htoday, htomorrow⟩, -, -, ⟨-, hin⟩, ⟨-, hwithin⟩,
    -⟩ := weeks_and_days_follow now hyear
  have hdays : wholeDays now.date.dayNumber (now.date.dayNumber + 1) = newYearsEve := by
    decide +kernel +zetaReduce
  have hsevenDays : wholeDays now.date.sunday (now.date.sunday + 7) = week := by
    decide +kernel +zetaReduce
  rw [hdays] at htoday hin hwithin
  rw [hsevenDays] at hweek hwithin
  refine ⟨hyear, hweek, htwo.trans ?_, htomorrow.trans ?_, htoday, hin, hwithin⟩
  all_goals decide +kernel +zetaReduce

end FilterSql.RelativeDate
