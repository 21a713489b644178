import FilterSql.Proofs.Calendar.Reckoning
import FilterSql.Proofs.Condition.Writing

/-!
# Conditions for ranges of time

The condition for a relative date asks whether a column lies between the start and the end of the
range of a word. Were the start after the end, nothing would lie between them, and the condition
would select no value at all, or every value once it is negated. From the second day of 1970 to the
end of the year 9999 no word has such a range: the past starts with 1970 and lasts for a day at
least, the future ends a thousand years on, and a range of months has at least one month.

## Main definitions

* `FilterSql.Database.KeepsTime`: a database takes no earlier moment for a later one.

## Main results

* `FilterSql.RelativeDate.meaning_ordered`: no word means a range that ends before it starts.
* `FilterSql.Condition.selects_within_range`: a condition for a relative date selects the moments of
  its range, and the negated one selects none of them.
-/

namespace FilterSql

open Duration

/-! ### Ranges end after they start -/

namespace RelativeDate

open Timestamp

variable {now : Timestamp}

/-- The year of the first moment is 1970. -/
theorem year_of_epoch_le (h : epoch ≤ now) : 1970 ≤ now.date.year := by
  have hepoch : startOf (12 * 1970) = epoch := by decide +kernel
  rw [← hepoch, startOf_le_iff] at h
  have hyear := now.date.monthNumber_ediv
  omega

theorem months_ordered {m n : Int} (h : m < n) : (months m n).1 ≤ (months m n).2 := by
  obtain ⟨length, hleast, -, hlength⟩ := nanos_startOf_succ m
  have hlater : startOf (m + 1) ≤ startOf n := startOf_mono h
  simp only [months, le_iff, nanos_sub, days, micros] at *
  omega

/-- From the second day of 1970 to the end of the year 9999 no word means a range that ends before
it starts. -/
theorem meaning_ordered (hfirst : ofDate ⟨1970, 1, 2, by decide⟩ ≤ now) (d : RelativeDate) :
    (d.meaning now).1 ≤ (d.meaning now).2 := by
  have hday := midnight_bounds now
  have hmidnight : epoch + days 1 ≤ midnight now.date.dayNumber := by
    have hle := midnight_mono (ofDate_le_iff.1 hfirst)
    rwa [← ofDate_eq_midnight] at hle
  have hdiv := now.date.monthNumber_ediv
  have hyear : 1970 ≤ now.date.year := year_of_epoch_le (Int.le_trans (by decide) hfirst)
  have hfuture : now < startOf (12 * (now.date.year + 1000)) := lt_startOf_iff.2 (by omega)
  cases d with
  | currentMonth | currentAndNextMonth | lastMonth | nextMonth | currentYear | nextYear =>
    exact months_ordered (by omega)
  | twoWeeksPastEndOfMonth =>
    have hmonth := months_ordered (Int.lt_succ now.date.monthNumber)
    simp only [meaning, months, le_iff, nanos_add, nanos_sub, days] at *
    omega
  | lastFullWeek | lastTwoFullWeeks | nextWeek | currentWeek | yesterday | today | tomorrow =>
    exact midnight_mono (by omega)
  | past | pastAndToday | future | futureAndToday | pastAndFuture | last7Days | last14Days
  | last30Days | last45Days | last60Days | next7Days | next14Days | next30Days | next45Days
  | next60Days =>
    -- on two sides of the moment or of its day
    simp only [meaning, le_iff, lt_iff, nanos_add, nanos_sub, nanos_midnight, days, micros, seconds,
      epoch] at *
    omega

end RelativeDate

/-! ### Conditions that are not vacuous -/

namespace Database

/-- A database takes no earlier moment for a later one. It may take some moments for the same one,
such as those of a microsecond. -/
def KeepsTime (db : Database) : Prop :=
  ∀ {s t : Timestamp} {d e : db.Datum}, s ≤ t → db.ofParam (.timestamp s) = some d →
    db.ofParam (.timestamp t) = some e → db.atMost d e = true

/-- The database whose values are the parameters themselves, with the order of moments. -/
def chronological : Database where
  __ := ofParams
  atMost
    | .timestamp s, .timestamp t => s.nanos ≤ t.nanos
    | _, _ => false

theorem keepsTime_chronological : chronological.KeepsTime := by
  rintro s t _ _ h ⟨⟩ ⟨⟩
  exact decide_eq_true h

variable {db : Database}

theorem exists_ofParam_timestamp (db : Database) (t : Timestamp) :
    ∃ d, db.ofParam (.timestamp t) = some d :=
  Option.ne_none_iff_exists'.1 (db.ofParam_ne_none (by simp [Param.IsNull]))

theorem KeepsTime.compare_eq_true (h : db.KeepsTime) {s t : Timestamp} (hle : s ≤ t) :
    db.compare db.atMost (db.ofParam (.timestamp s)) (db.ofParam (.timestamp t)) = .true := by
  obtain ⟨d, hd⟩ := db.exists_ofParam_timestamp s
  obtain ⟨e, he⟩ := db.exists_ofParam_timestamp t
  rw [hd, he, compare, Truth.ofBool_eq_true_iff]
  exact h hle hd he

end Database

namespace Condition

/-- A moment between two others is selected by the condition for what lies between them, and not
selected by the negated one. -/
theorem selects_between_iff {db : Database} (hdb : db.KeepsTime) (column : String) (negated : Bool)
    {first t last : Timestamp} (hfirst : first ≤ t) (hlast : t ≤ last) :
    Selects db column
        ((Comparison.between negated (.timestamp first) (.timestamp last)).strict.write column)
        (db.ofParam (.timestamp t)) ↔
      negated = false := by
  rw [selects_write_iff, Test.truth_strict, Comparison.truth, hdb.compare_eq_true hfirst,
    hdb.compare_eq_true hlast]
  cases negated <;> decide

/-- From the second day of 1970 to the end of the year 9999 the range of a word is found within the
bounds of dates and does not end before it starts. So the condition for it is not vacuous: the
moments from the start to the end are selected, and none of them is once it is negated. -/
theorem selects_within_range (d : RelativeDate) (now : Timestamp)
    (hfirst : Timestamp.ofDate ⟨1970, 1, 2, by decide⟩ ≤ now) (hlast : now.date.year ≤ 9999) :
    ∃ first last, d.rangeBy .strict now = some (first, last) ∧
      d.range now = some (first, last) ∧ first ≤ last ∧
      ∀ (column : String) (op : Operator), op.type = .relativeDate →
        ∃ f, build column op (.relativeDate d) now = .ok f ∧
          ∀ db : Database, db.KeepsTime → ∀ t, first ≤ t → t ≤ last →
            (Selects db column f (db.ofParam (.timestamp t)) ↔ op.negative = false) := by
  have hyear : 1 ≤ now.date.year ∧ now.date.year ≤ 9999 := by
    have hepoch := RelativeDate.year_of_epoch_le (Int.le_trans (by decide) hfirst)
    omega
  have hrange : d.range now = some (d.meaning now) := RelativeDate.range_eq_meaning hyear d
  refine ⟨_, _, RelativeDate.rangeBy_eq_meaning Reckoning.exact_strict hyear d, hrange,
    RelativeDate.meaning_ordered hfirst d, fun column op htype => ⟨_, ?_,
      fun db hdb t hstart hend => selects_between_iff hdb column op.negative hstart hend⟩⟩
  simp only [build, htype]
  exact ofRelativeDate_eq_write column op hrange

/-- At the start of the second day of 1970 the past is the first day, up to its last microsecond. -/
theorem selects_within_range_of_first_day :
    let now := Timestamp.ofDate ⟨1970, 1, 2, by decide⟩
    let op : Operator := { name := "outside of", type := .relativeDate, negative := true }
    (Timestamp.ofDate ⟨1970, 1, 2, by decide⟩ ≤ now ∧ now.date.year ≤ 9999) ∧
    RelativeDate.past.range now = some (.epoch, now - micros 1) ∧
    ∃ f, build "arrived" op (.relativeDate .past) now = .ok f ∧
      ¬ Selects .chronological "arrived" f
        (Database.chronological.ofParam (.timestamp (now - micros 1))) := by
  intro now op
  have hnow : Timestamp.ofDate ⟨1970, 1, 2, by decide⟩ ≤ now ∧ now.date.year ≤ 9999 := by
    decide +kernel +zetaReduce
  have hpast : RelativeDate.past.range now = some (.epoch, now - micros 1) := by
    decide +kernel +zetaReduce
  obtain ⟨first, last, -, hrange, hordered, hbuild⟩ :=
    selects_within_range .past now hnow.1 hnow.2
  obtain ⟨rfl, rfl⟩ := Prod.mk.inj (Option.some.inj (hpast.symm.trans hrange))
  obtain ⟨f, hf, hselects⟩ := hbuild "arrived" op rfl
  have hend := hselects _ Database.keepsTime_chronological _ hordered (Int.le_refl _)
  exact ⟨hnow, hpast, f, hf, fun h => absurd (hend.1 h) (by decide)⟩

end Condition

end FilterSql
