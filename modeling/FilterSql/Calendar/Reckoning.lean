import FilterSql.Calendar.Timestamp

/-!
# Reckoning with moments

Ranges of time are found by going some time on or back from moment to moment, and by looking up the
first days of years and months. Dates are bounded, so both can lead out of what can be written. What
happens there is up to an arithmetic of moments, which may fail: the computations of this file are
written over any arithmetic, and ranges are found with the checked one. There a moment without a
date cannot be reached, so that the computation fails, while the last date stands in for a date
beyond the bounds.

## Main definitions

* `FilterSql.Reckoning`: an arithmetic of moments and dates.
* `FilterSql.Reckoning.checked`: the arithmetic that ranges are found with.
* `FilterSql.Reckoning.startOfYear`, `FilterSql.Reckoning.endOfYear`,
  `FilterSql.Reckoning.endOfMonth`: the bounds of years and months.
-/

namespace FilterSql

/-- How a computation gets from one moment to another, and how it looks up dates. -/
structure Reckoning (M : Type → Type) where
  /-- The moment some time after another one. -/
  later : Timestamp → Duration → M Timestamp
  /-- The moment some time before another one. -/
  earlier : Timestamp → Duration → M Timestamp
  /-- The date of a year, a month and a day. -/
  ofYmd : Int → Nat → Nat → M Date

namespace Reckoning

/-- A moment whose date cannot be written cannot be reached. In place of a date beyond the bounds
stands the last one within them. -/
def checked : Reckoning Option where
  later t d := if (t + d).Datable then some (t + d) else none
  earlier t d := if (t - d).Datable then some (t - d) else none
  ofYmd year month day := some ((Date.ofYmd? year month day).getD Date.latest)

variable {M : Type → Type} [Monad M] (r : Reckoning M)

/-- The start of a year. -/
def startOfYear (year : Int) : M Timestamp := do
  let first ← r.ofYmd year 1 1
  return .ofDate first

/-- The last microsecond of a year. -/
def endOfYear (year : Int) : M Timestamp := do
  let next ← r.startOfYear (year + 1)
  r.earlier next (.micros 1)

/-- The last microsecond of the month of a moment. -/
def endOfMonth (t : Timestamp) : M Timestamp := do
  let (year, month) :=
    if t.date.month = 12 then (t.date.year + 1, 1) else (t.date.year, t.date.month + 1)
  let next ← r.ofYmd year month 1
  r.earlier (.ofDate next) (.micros 1)

end Reckoning

end FilterSql
