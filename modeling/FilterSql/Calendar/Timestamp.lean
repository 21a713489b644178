import FilterSql.Calendar.Date
import FilterSql.Text.Digits

/-!
# Points in time

A point in time, without a time zone, is the number of nanoseconds since the start of the first of
January 1970. Its text has the date, the time of the day and, unless it is zero, the fraction of the
second with three, six or nine digits.

Every minute has sixty seconds here. A leap second, which some clocks give as a fraction of a second
or more of the second before it, is no point in time of its own and has no number.

## Main definitions

* `FilterSql.Timestamp`: a point in time.
* `FilterSql.Timestamp.ofDate`, `FilterSql.Timestamp.ofClock`: the start of a day, and a time of it.
* `FilterSql.Timestamp.date`, `FilterSql.Timestamp.nanosOfDay`: the parts of a point in time.
* `FilterSql.Timestamp.Datable`: the points in time whose dates can be written.
* `FilterSql.Timestamp.write`: the text of a point in time.
-/

namespace FilterSql

/-- A point in time: the nanoseconds since the start of the first of January 1970. -/
structure Timestamp where
  /-- The nanoseconds since the start of the first of January 1970. -/
  nanos : Int
deriving DecidableEq, Repr

/-- A length of time in nanoseconds. -/
abbrev Duration := Int

namespace Duration

/-- A number of microseconds. -/
def micros (n : Int) : Duration := n * 1000

/-- A number of seconds. -/
def seconds (n : Int) : Duration := n * 1000000000

/-- A number of days. -/
def days (n : Int) : Duration := n * 86400000000000

end Duration

namespace Timestamp

instance : Inhabited Timestamp := ⟨⟨0⟩⟩

instance : HAdd Timestamp Duration Timestamp := ⟨fun t d => ⟨t.nanos + d⟩⟩

instance : HSub Timestamp Duration Timestamp := ⟨fun t d => ⟨t.nanos - d⟩⟩

instance : LE Timestamp := ⟨fun s t => s.nanos ≤ t.nanos⟩

instance : LT Timestamp := ⟨fun s t => s.nanos < t.nanos⟩

@[simp] theorem nanos_add (t : Timestamp) (d : Duration) : (t + d).nanos = t.nanos + d := rfl

@[simp] theorem nanos_sub (t : Timestamp) (d : Duration) : (t - d).nanos = t.nanos - d := rfl

/-- The start of a day. -/
def ofDate (d : Date) : Timestamp :=
  ⟨Duration.days d.dayNumber⟩

/-- The point of a day that lies a number of nanoseconds after its start. -/
def ofClock (d : Date) (nanosOfDay : Nat) : Timestamp :=
  ofDate d + (nanosOfDay : Duration)

/-- The start of the first of January 1970. -/
def epoch : Timestamp := ⟨0⟩

/-- The day of a point in time. -/
def date (t : Timestamp) : Date :=
  Date.ofDayNumber (t.nanos / Duration.days 1)

/-- The date of a point in time can be written. -/
def Datable (t : Timestamp) : Prop :=
  Date.minYear ≤ t.date.year ∧ t.date.year ≤ Date.maxYear

instance (t : Timestamp) : Decidable t.Datable := inferInstanceAs (Decidable (_ ∧ _))

/-- The nanoseconds from the start of the day to a point in time. -/
def nanosOfDay (t : Timestamp) : Nat :=
  (t.nanos % Duration.days 1).toNat

/-- The hour of the day. -/
def hour (t : Timestamp) : Nat := t.nanosOfDay / 3600000000000

/-- The minute of the hour. -/
def minute (t : Timestamp) : Nat := t.nanosOfDay / 60000000000 % 60

/-- The second of the minute. -/
def second (t : Timestamp) : Nat := t.nanosOfDay / 1000000000 % 60

/-- The nanoseconds of the second. -/
def fraction (t : Timestamp) : Nat := t.nanosOfDay % 1000000000

open Text

/-- A year with four digits; years that need more, or that come before the year zero, have a
sign. -/
def writeYear (year : Int) : List Char :=
  if 0 ≤ year ∧ year ≤ 9999 then paddedNat 4 year.toNat
  else (if 0 ≤ year then '+' else '-') :: paddedNat 4 year.natAbs

/-- The date of a point in time. -/
def writeDate (d : Date) : List Char :=
  writeYear d.year ++ '-' :: paddedNat 2 d.month ++ '-' :: paddedNat 2 d.day

/-- The hour, minute and second of a point in time. -/
def writeClock (t : Timestamp) : List Char :=
  paddedNat 2 t.hour ++ ':' :: paddedNat 2 t.minute ++ ':' :: paddedNat 2 t.second

/-- The fraction of a second, with as few of three, six and nine digits as are exact. -/
def writeFraction (nanos : Nat) : List Char :=
  if nanos = 0 then []
  else if nanos % 1000000 = 0 then '.' :: paddedNat 3 (nanos / 1000000)
  else if nanos % 1000 = 0 then '.' :: paddedNat 6 (nanos / 1000)
  else '.' :: paddedNat 9 nanos

/-- The characters of a point in time, with the separator between the date and the clock. -/
def writeChars (separator : Char) (t : Timestamp) : List Char :=
  writeDate t.date ++ separator :: t.writeClock ++ writeFraction t.fraction

/-- The canonical text of a point in time, such as `2014-01-21T16:34:02`. -/
def text (t : Timestamp) : String :=
  String.ofList (t.writeChars 'T')

/-- The text of a point in time with a blank before the clock. -/
def spacedText (t : Timestamp) : String :=
  String.ofList (t.writeChars ' ')

/-- The text of a point in time to the second, with a blank before the clock. -/
def textToSecond (t : Timestamp) : String :=
  String.ofList (writeDate t.date ++ ' ' :: t.writeClock)

end Timestamp

end FilterSql
