import FilterSql.Calendar.Reckoning
import FilterSql.Text.Blank
import FilterSql.Text.Case

/-!
# Relative dates

A relative date is a word for a range of time around the present moment, such as `last_7_days` or
`current_month`. Weeks start on Sunday. Ranges that end with a month or a year end on its last
microsecond, since a range includes its end.

At the very ends of the calendar a word has no range, since the way to it leads out of the dates
that can be written. On its last day no word has one, as the end of that day is looked up for all.

## Main definitions

* `FilterSql.RelativeDate`: the words.
* `FilterSql.RelativeDate.token`, `FilterSql.RelativeDate.ofText?`: words as texts.
* `FilterSql.RelativeDate.rangeBy`: the range of a word at a moment, on any arithmetic.
* `FilterSql.RelativeDate.range`: the range of a word at a moment, if it has one.
-/

namespace FilterSql

/-- A word for a range of time around the present moment. -/
inductive RelativeDate where
  | lastFullWeek
  | lastTwoFullWeeks
  | last7Days
  | last14Days
  | last30Days
  | last45Days
  | last60Days
  | next7Days
  | next14Days
  | next30Days
  | next45Days
  | next60Days
  | nextWeek
  | currentWeek
  | currentMonth
  | currentAndNextMonth
  | currentYear
  | lastMonth
  | nextMonth
  | nextYear
  | past
  | pastAndToday
  | future
  | futureAndToday
  | yesterday
  | today
  | tomorrow
  | pastAndFuture
  | twoWeeksPastEndOfMonth
deriving DecidableEq, Repr

namespace RelativeDate

/-- Every word. -/
def all : List RelativeDate :=
  [lastFullWeek, lastTwoFullWeeks, last7Days, last14Days, last30Days, last45Days, last60Days,
    next7Days, next14Days, next30Days, next45Days, next60Days, nextWeek, currentWeek,
    currentMonth, currentAndNextMonth, currentYear, lastMonth, nextMonth, nextYear, past,
    pastAndToday, future, futureAndToday, yesterday, today, tomorrow, pastAndFuture,
    twoWeeksPastEndOfMonth]

/-- The spelling of a word. -/
def token : RelativeDate → String
  | lastFullWeek => "last_full_week"
  | lastTwoFullWeeks => "last_two_full_weeks"
  | last7Days => "last_7_days"
  | last14Days => "last_14_days"
  | last30Days => "last_30_days"
  | last45Days => "last_45_days"
  | last60Days => "last_60_days"
  | next7Days => "next_7_days"
  | next14Days => "next_14_days"
  | next30Days => "next_30_days"
  | next45Days => "next_45_days"
  | next60Days => "next_60_days"
  | nextWeek => "next_week"
  | currentWeek => "current_week"
  | currentMonth => "current_month"
  | currentAndNextMonth => "current_and_next_month"
  | currentYear => "current_year"
  | lastMonth => "last_month"
  | nextMonth => "next_month"
  | nextYear => "next_year"
  | past => "past"
  | pastAndToday => "past_and_today"
  | future => "future"
  | futureAndToday => "future_and_today"
  | yesterday => "yesterday"
  | today => "today"
  | tomorrow => "tomorrow"
  | pastAndFuture => "past_and_future"
  | twoWeeksPastEndOfMonth => "two_weeks_past_end_of_month"

/-- The name of a word in messages. -/
def name : RelativeDate → String
  | lastFullWeek => "LastFullWeek"
  | lastTwoFullWeeks => "LastTwoFullWeeks"
  | last7Days => "Last7Days"
  | last14Days => "Last14Days"
  | last30Days => "Last30Days"
  | last45Days => "Last45Days"
  | last60Days => "Last60Days"
  | next7Days => "Next7Days"
  | next14Days => "Next14Days"
  | next30Days => "Next30Days"
  | next45Days => "Next45Days"
  | next60Days => "Next60Days"
  | nextWeek => "NextWeek"
  | currentWeek => "CurrentWeek"
  | currentMonth => "CurrentMonth"
  | currentAndNextMonth => "CurrentAndNextMonth"
  | currentYear => "CurrentYear"
  | lastMonth => "LastMonth"
  | nextMonth => "NextMonth"
  | nextYear => "NextYear"
  | past => "Past"
  | pastAndToday => "PastAndToday"
  | future => "Future"
  | futureAndToday => "FutureAndToday"
  | yesterday => "Yesterday"
  | today => "Today"
  | tomorrow => "Tomorrow"
  | pastAndFuture => "PastAndFuture"
  | twoWeeksPastEndOfMonth => "TwoWeeksPastEndOfMonth"

open Text

/-- The character of a spelling that a typed one stands for: a small letter for a capital one, among
which the sign for the kelvin counts as a `K`, and an underscore for a space. -/
def spellingChar (c : Char) : Char :=
  if c = ' ' then '_' else if c = '\u212A' then 'k' else c.toLower

/-- The word of a text, whose case does not count and whose words may be set apart by spaces. -/
def ofText? (text : String) : Option RelativeDate :=
  let spelling := (trimChars text.toList).map spellingChar
  all.find? fun d => d.token.toList == spelling

/-- The start of the day of a moment. -/
def startOfDay (t : Timestamp) : Timestamp :=
  .ofDate t.date

/-- The start of the month of a moment. -/
def startOfMonth (t : Timestamp) : Timestamp :=
  .ofDate t.date.firstOfMonth

/-- How far the ranges of the last days reach past the moment itself. -/
def grace : Duration := Duration.seconds 3

/-- The range of a word at a moment of which the start and the end of its day, the start of its week
and the end of its future are known. -/
def rangeFrom {M : Type → Type} [Monad M] (r : Reckoning M)
    (dayStart dayEnd weekStart farFuture : Timestamp) (d : RelativeDate) (now : Timestamp) :
    M (Timestamp × Timestamp) := do
  let days := Duration.days
  match d with
  | lastFullWeek => return (← r.earlier weekStart (days 7), weekStart)
  | lastTwoFullWeeks => return (← r.earlier weekStart (days 14), weekStart)
  | last7Days => return (← r.earlier now (days 7), ← r.later now grace)
  | last14Days => return (← r.earlier now (days 14), ← r.later now grace)
  | last30Days => return (← r.earlier now (days 30), ← r.later now grace)
  | last45Days => return (← r.earlier now (days 45), ← r.later now grace)
  | last60Days => return (← r.earlier now (days 60), ← r.later now grace)
  | next7Days => return (now, ← r.later now (days 7))
  | next14Days => return (now, ← r.later now (days 14))
  | next30Days => return (now, ← r.later now (days 30))
  | next45Days => return (now, ← r.later now (days 45))
  | next60Days => return (now, ← r.later now (days 60))
  | nextWeek => return (← r.later weekStart (days 7), ← r.later weekStart (days 14))
  | currentWeek => return (weekStart, ← r.later weekStart (days 7))
  | currentMonth => return (startOfMonth now, ← r.endOfMonth now)
  | currentAndNextMonth =>
    let inNextMonth ← r.later (startOfMonth now) (days 45)
    return (startOfMonth now, ← r.endOfMonth inNextMonth)
  | currentYear => return (← r.startOfYear now.date.year, ← r.endOfYear now.date.year)
  | lastMonth =>
    let inLastMonth ← r.earlier (startOfMonth now) (days 2)
    return (startOfMonth inLastMonth, ← r.endOfMonth inLastMonth)
  | nextMonth =>
    let inNextMonth ← r.later (← r.endOfMonth now) (days 2)
    return (startOfMonth inNextMonth, ← r.endOfMonth inNextMonth)
  | nextYear => return (← r.startOfYear (now.date.year + 1), ← r.endOfYear (now.date.year + 1))
  | past => return (.epoch, ← r.earlier dayStart (.micros 1))
  | pastAndToday => return (.epoch, now)
  | future => return (now, farFuture)
  | futureAndToday => return (dayStart, farFuture)
  | yesterday => return (← r.earlier dayStart (days 1), dayStart)
  | today => return (dayStart, dayEnd)
  | tomorrow => return (dayEnd, ← r.later dayEnd (days 1))
  | pastAndFuture => return (.epoch, farFuture)
  | twoWeeksPastEndOfMonth => return (startOfMonth now, ← r.later (← r.endOfMonth now) (days 14))

/-- The range of a word at a moment, found with an arithmetic of moments. The bounds of its day, its
week and its future are found for every word. -/
def rangeBy {M : Type → Type} [Monad M] (r : Reckoning M) (d : RelativeDate) (now : Timestamp) :
    M (Timestamp × Timestamp) := do
  let dayStart := startOfDay now
  let dayEnd ← r.later dayStart (.days 1)
  let weekStart ← r.earlier dayStart (.days now.date.weekday)
  let farFuture ← r.startOfYear (now.date.year + 1000)
  d.rangeFrom r dayStart dayEnd weekStart farFuture now

/-- The range of a word at a moment: its first and its last point in time, unless the way to them
leads out of the dates that can be written. -/
def range (d : RelativeDate) (now : Timestamp) : Option (Timestamp × Timestamp) :=
  d.rangeBy .checked now

end RelativeDate

end FilterSql
