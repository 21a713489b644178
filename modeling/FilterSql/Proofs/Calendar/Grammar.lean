import FilterSql.Calendar.Reader
import Mathlib.Algebra.Group.Nat.Defs

/-!
# The grammar of dates and times

What a point in time may look like, and what it means, by the parts of its text one after the other.
Nothing is said here about how a text is read: a part is any list of characters of its form, and
where a text can be cut in several ways, all of them count.

A date stands alone or in front of a clock. The point in time is the one the date and the clock
show, and an offset is taken off. Of the fraction of a second whole nanoseconds count.

## Main definitions

* `FilterSql.Timestamp.Digits`, `FilterSql.Timestamp.Row`, `FilterSql.Timestamp.AnyCase`: the words
  of the grammar.
* `FilterSql.Timestamp.MonthText`, `FilterSql.Timestamp.DayText`, `FilterSql.Timestamp.DateText`:
  the texts of months, days and dates.
* `FilterSql.Timestamp.SecondsText`, `FilterSql.Timestamp.FractionText`,
  `FilterSql.Timestamp.HalfText`, `FilterSql.Timestamp.OffsetText`, `FilterSql.Timestamp.ClockText`:
  the texts of clocks and their parts.
* `FilterSql.Timestamp.Written`: the texts of points in time.
-/

namespace FilterSql.Timestamp

open Text

/-! ### Words -/

/-- Between `min` and `max` digits, which stand for a number. -/
structure Digits (min max : Nat) (w : List Char) (n : Nat) : Prop where
  least : min ≤ w.length
  most : w.length ≤ max
  digits : ∀ c ∈ w, isDigit c = true
  value : natOfDigits w = n

/-- One or more characters of a kind. -/
structure Row (kind : Char → Bool) (w : List Char) : Prop where
  nonempty : w ≠ []
  all : ∀ c ∈ w, kind c = true

/-- A word in any case. The word is given in small letters. -/
def AnyCase (word : String) (w : List Char) : Prop :=
  lowerChars w = word.toList

/-! ### Dates -/

/-- At least three letters that begin the name of a month, in any case, and an optional point. -/
inductive MonthText : List Char → Nat → Prop
  | intro {letters point : List Char} {name : String} {index : Nat}
      (hname : monthNames[index]? = some name) (hlength : 3 ≤ letters.length)
      (hletters : lowerChars letters <+: name.toList) (hpoint : point = [] ∨ point = ['.']) :
      MonthText (letters ++ point) (index + 1)

/-- The day of a month, with an optional ending in any case. -/
inductive DayText : List Char → Nat → Prop
  | intro {digits ending : List Char} {day : Nat} (hdigits : Digits 1 2 digits day)
      (hending : ending = [] ∨ ∃ word ∈ ["st", "nd", "rd", "th"], AnyCase word ending) :
      DayText (digits ++ ending) day

/-- A date in one of its four forms. -/
inductive DateText : List Char → Date → Prop
  | yearFirst {y m d : List Char} {a b : Char} {year : Nat} {date : Date}
      (hy : Digits 4 4 y year) (ha : a ∈ ['-', '/']) (hm : Digits 1 2 m date.month)
      (hb : b ∈ ['-', '/']) (hd : Digits 1 2 d date.day) (hyear : date.year = year) :
      DateText (y ++ a :: (m ++ b :: d)) date
  | yearLast {m d y : List Char} {year : Nat} {date : Date}
      (hm : Digits 1 2 m date.month) (hd : Digits 1 2 d date.day) (hy : Digits 4 4 y year)
      (hyear : date.year = year) : DateText (m ++ '/' :: (d ++ '/' :: y)) date
  | monthFirst {m blanks d comma blanks' y : List Char} {year : Nat} {date : Date}
      (hm : MonthText m date.month) (hblanks : Row isSpace blanks) (hd : DayText d date.day)
      (hcomma : comma = [] ∨ comma = [',']) (hblanks' : Row isSpace blanks')
      (hy : Digits 4 4 y year) (hyear : date.year = year) :
      DateText (m ++ (blanks ++ (d ++ (comma ++ (blanks' ++ y))))) date
  | dayFirst {d blanks m comma blanks' y : List Char} {year : Nat} {date : Date}
      (hd : DayText d date.day) (hblanks : Row isSpace blanks) (hm : MonthText m date.month)
      (hcomma : comma = [] ∨ comma = [',']) (hblanks' : Row isSpace blanks')
      (hy : Digits 4 4 y year) (hyear : date.year = year) :
      DateText (d ++ (blanks ++ (m ++ (comma ++ (blanks' ++ y))))) date

/-! ### Clocks -/

/-- What stands between a date and a clock: a letter, or blanks after an optional comma. -/
inductive SeparatorText : List Char → Prop
  | letter {c : Char} (hc : c ∈ ['T', 't']) : SeparatorText [c]
  | gap {comma blanks : List Char} (hcomma : comma = [] ∨ comma = [','])
      (hblanks : Row isGap blanks) : SeparatorText (comma ++ blanks)

/-- The seconds of a clock, zero if they are left out. -/
inductive SecondsText : List Char → Nat → Prop
  | absent : SecondsText [] 0
  | present {w : List Char} {n : Nat} (h : Digits 2 2 w n) : SecondsText (':' :: w) n

/-- The whole nanoseconds in a fraction of a second, zero if it is left out. -/
inductive FractionText : List Char → Nat → Prop
  | absent : FractionText [] 0
  | present {w : List Char} (h : Row isDigit w) :
      FractionText ('.' :: w) (natOfDigits w * 10 ^ 9 / 10 ^ w.length)

/-- The half of the day that an hour belongs to, with the hour of the day. Without it the hour is
one of the day. -/
inductive HalfText (hour : Nat) : List Char → Nat → Prop
  | absent : HalfText hour [] hour
  | morning {blanks w : List Char} (hblanks : ∀ c ∈ blanks, isSpace c = true)
      (hw : AnyCase "am" w) (hhour : 1 ≤ hour ∧ hour ≤ 12) :
      HalfText hour (blanks ++ w) (hour % 12)
  | afternoon {blanks w : List Char} (hblanks : ∀ c ∈ blanks, isSpace c = true)
      (hw : AnyCase "pm" w) (hhour : 1 ≤ hour ∧ hour ≤ 12) :
      HalfText hour (blanks ++ w) (hour % 12 + 12)

/-- The offset from universal time in seconds, zero if it is left out. -/
inductive OffsetText : List Char → Int → Prop
  | absent : OffsetText [] 0
  | universal {blanks w : List Char} {word : String}
      (hblanks : ∀ c ∈ blanks, isSpace c = true) (hword : word ∈ ["z", "utc", "gmt"])
      (hw : AnyCase word w) : OffsetText (blanks ++ w) 0
  | signed {blanks h colon m : List Char} {sign : Char} {hours minutes : Nat}
      (hblanks : ∀ c ∈ blanks, isSpace c = true) (hsign : sign ∈ ['+', '-'])
      (hh : Digits 2 2 h hours) (hcolon : colon = [] ∨ colon = [':'])
      (hm : Digits 2 2 m minutes) :
      OffsetText (blanks ++ sign :: (h ++ (colon ++ m)))
        ((if sign = '-' then -1 else 1) * (hours * 3600 + minutes * 60))

/-- A clock, with the nanoseconds since the start of the day that it shows and the offset from
universal time in seconds. -/
inductive ClockText : List Char → Nat → Int → Prop
  | intro {h m sec frac half off : List Char} {hour hourOfDay minute second nanos : Nat}
      {offset : Int} (hh : Digits 1 2 h hour) (hm : Digits 2 2 m minute)
      (hsec : SecondsText sec second) (hfrac : FractionText frac nanos)
      (hhalf : HalfText hour half hourOfDay) (hoff : OffsetText off offset)
      (hhour : hourOfDay < 24) (hminute : minute < 60) (hsecond : second < 60) :
      ClockText (h ++ ':' :: (m ++ (sec ++ (frac ++ (half ++ off)))))
        (((hourOfDay * 60 + minute) * 60 + second) * 10 ^ 9 + nanos) offset

/-! ### Points in time -/

/-- A text of a point in time, without blanks around it. -/
inductive Written : List Char → Timestamp → Prop
  | date {w : List Char} {d : Date} (hw : DateText w d) : Written w (ofDate d)
  | clock {w separator c : List Char} {d : Date} {nanosOfDay : Nat} {offset : Int}
      (hw : DateText w d) (hseparator : SeparatorText separator)
      (hc : ClockText c nanosOfDay offset) :
      Written (w ++ (separator ++ c)) (ofClock d nanosOfDay - Duration.seconds offset)

end FilterSql.Timestamp
