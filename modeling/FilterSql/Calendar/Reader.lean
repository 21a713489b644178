import FilterSql.Calendar.Timestamp
import FilterSql.Text.Blank
import FilterSql.Text.Case

/-!
# Reading dates and times

A point in time is written as a date, optionally followed by a separator and a clock:

* `2014-01-21`, `2014/01/21`, `01/21/2014`, `Jan 21, 2014` or `21 January 2014`;
* `T`, or a comma and blanks;
* `16:34`, `16:34:02.250`, `4:30pm`, with an optional offset `Z`, `UTC`, `GMT` or `+02:00`.

The offset is taken off, which leaves a point in time without a time zone. The reader of a part
gives its meaning and the text after it, or nothing where the part does not fit. Each part reads as
much as it can, and a part that can be left out is left out when it does not fit; the whole text has
to be used up.

## Main definitions

* `FilterSql.Timestamp.readDate?`, `FilterSql.Timestamp.readClock?`: the two parts.
* `FilterSql.Timestamp.ofText?`: a whole text.
-/

namespace FilterSql.Timestamp

open Text

/-- Between `min` and `max` digits, as many as there are. -/
def readDigits? (min max : Nat) (s : List Char) : Option (Nat × List Char) :=
  let digits := (s.takeWhile isDigit).take max
  if digits.length < min then none
  else some (natOfDigits digits, s.drop digits.length)

/-- One of a few characters. -/
def readOneOf? (allowed : List Char) : List Char → Option (Char × List Char)
  | c :: rest => if c ∈ allowed then some (c, rest) else none
  | [] => none

/-- A word, in any case. The word is given in small letters. -/
def readWord? (word : String) (s : List Char) : Option (Unit × List Char) :=
  if lowerChars (s.take word.length) = word.toList then some ((), s.drop word.length) else none

/-- The first of some words, in any case. -/
def readAnyWord? (words : List String) (s : List Char) : Option (Unit × List Char) :=
  words.findSome? (readWord? · s)

/-- A part that can be left out. -/
def optional {α : Type} (part : List Char → Option (α × List Char)) (s : List Char) :
    Option α × List Char :=
  match part s with
  | some (x, rest) => (some x, rest)
  | none => (none, s)

/-- The blanks between the words of a date. -/
def isSpace (c : Char) : Bool := c = ' ' || c = '\t'

/-- At least one blank between the words of a date. -/
def readSpaces? (s : List Char) : Option (Unit × List Char) :=
  if (s.takeWhile isSpace).isEmpty then none else some ((), s.dropWhile isSpace)

/-- The English names of the months. -/
def monthNames : List String :=
  ["january", "february", "march", "april", "may", "june", "july", "august", "september",
    "october", "november", "december"]

/-- A letter `A` to `Z` or `a` to `z`. -/
def isLetter (c : Char) : Bool :=
  ('a' ≤ c && c ≤ 'z') || ('A' ≤ c && c ≤ 'Z')

/-- The month that at least three letters begin the name of. -/
def monthOfName? (name : List Char) : Option Nat :=
  if name.length < 3 then none
  else
    (monthNames.findIdx? fun month => (lowerChars name).isPrefixOf month.toList).map (· + 1)

/-- The name of a month, or its first letters, with an optional point. -/
def readMonthName? (s : List Char) : Option (Nat × List Char) := do
  let month ← monthOfName? (s.takeWhile isLetter)
  some (month, (optional (readOneOf? ['.']) (s.dropWhile isLetter)).2)

/-- A day of a month, with an optional ending. -/
def readDay? (s : List Char) : Option (Nat × List Char) := do
  let (day, s) ← readDigits? 1 2 s
  some (day, (optional (readAnyWord? ["st", "nd", "rd", "th"]) s).2)

/-- A date as `2014-01-21` or `2014/01/21`. -/
def readYearFirst? (s : List Char) : Option (Date × List Char) := do
  let (year, s) ← readDigits? 4 4 s
  let (_, s) ← readOneOf? ['-', '/'] s
  let (month, s) ← readDigits? 1 2 s
  let (_, s) ← readOneOf? ['-', '/'] s
  let (day, s) ← readDigits? 1 2 s
  let date ← Date.ofYmd? year month day
  some (date, s)

/-- A date as `01/21/2014`. -/
def readYearLast? (s : List Char) : Option (Date × List Char) := do
  let (month, s) ← readDigits? 1 2 s
  let (_, s) ← readOneOf? ['/'] s
  let (day, s) ← readDigits? 1 2 s
  let (_, s) ← readOneOf? ['/'] s
  let (year, s) ← readDigits? 4 4 s
  let date ← Date.ofYmd? year month day
  some (date, s)

/-- A date as `Jan 21, 2014`. -/
def readMonthFirst? (s : List Char) : Option (Date × List Char) := do
  let (month, s) ← readMonthName? s
  let (_, s) ← readSpaces? s
  let (day, s) ← readDay? s
  let (_, s) := optional (readOneOf? [',']) s
  let (_, s) ← readSpaces? s
  let (year, s) ← readDigits? 4 4 s
  let date ← Date.ofYmd? year month day
  some (date, s)

/-- A date as `21 January 2014`. -/
def readDayFirst? (s : List Char) : Option (Date × List Char) := do
  let (day, s) ← readDay? s
  let (_, s) ← readSpaces? s
  let (month, s) ← readMonthName? s
  let (_, s) := optional (readOneOf? [',']) s
  let (_, s) ← readSpaces? s
  let (year, s) ← readDigits? 4 4 s
  let date ← Date.ofYmd? year month day
  some (date, s)

/-- A date in any of its forms. -/
def readDate? (s : List Char) : Option (Date × List Char) :=
  readYearFirst? s <|> readYearLast? s <|> readMonthFirst? s <|> readDayFirst? s

/-- The blanks before a clock. -/
def isGap (c : Char) : Bool := c = ' ' || c = '\t' || c = '\r' || c = '\n'

/-- What stands between a date and a clock. -/
def readSeparator? (s : List Char) : Option (Unit × List Char) :=
  match s with
  | 'T' :: rest => some ((), rest)
  | 't' :: rest => some ((), rest)
  | _ =>
    let (_, s) := optional (readOneOf? [',']) s
    if (s.takeWhile isGap).isEmpty then none else some ((), s.dropWhile isGap)

/-- The seconds of a clock. -/
def readSeconds? (s : List Char) : Option (Nat × List Char) := do
  let (_, s) ← readOneOf? [':'] s
  readDigits? 2 2 s

/-- The nanoseconds of a fraction, of which nine digits count. -/
def fractionNanos (digits : List Char) : Nat :=
  natOfDigits (digits.take 9) * Nat.pow 10 (9 - digits.length)

/-- The fraction of a second. -/
def readFraction? (s : List Char) : Option (Nat × List Char) := do
  let (_, s) ← readOneOf? ['.'] s
  let digits := s.takeWhile isDigit
  if digits.isEmpty then none else some (fractionNanos digits, s.dropWhile isDigit)

/-- The half of the day, true for the second one. -/
def readHalf? (s : List Char) : Option (Bool × List Char) :=
  let s := s.dropWhile isSpace
  ((readWord? "am" s).map fun (_, s) => (false, s)) <|>
    (readWord? "pm" s).map fun (_, s) => (true, s)

/-- The hour of the day that an hour of a half is. -/
def hourOfHalf? (half : Option Bool) (hour : Nat) : Option Nat :=
  match half with
  | none => some hour
  | some second =>
    if hour = 0 ∨ 12 < hour then none
    else some (if second then hour % 12 + 12 else hour % 12)

/-- The nanoseconds from the start of the day to a time that exists. -/
def nanosOfClock? (hour minute second nanos : Nat) : Option Nat :=
  if hour < 24 ∧ minute < 60 ∧ second < 60 then
    some (((hour * 60 + minute) * 60 + second) * 1000000000 + nanos)
  else none

/-- A time of the day, in nanoseconds from its start. -/
def readTimeOfDay? (s : List Char) : Option (Nat × List Char) := do
  let (hour, s) ← readDigits? 1 2 s
  let (_, s) ← readOneOf? [':'] s
  let (minute, s) ← readDigits? 2 2 s
  let (second, s) := optional readSeconds? s
  let (nanos, s) := optional readFraction? s
  let (half, s) := optional readHalf? s
  let hour ← hourOfHalf? half hour
  let time ← nanosOfClock? hour minute (second.getD 0) (nanos.getD 0)
  some (time, s)

/-- An offset by hours and minutes, in seconds. -/
def readSignedOffset? (s : List Char) : Option (Int × List Char) := do
  let (sign, s) ← readOneOf? ['+', '-'] s
  let (hours, s) ← readDigits? 2 2 s
  let (_, s) := optional (readOneOf? [':']) s
  let (minutes, s) ← readDigits? 2 2 s
  let seconds : Int := hours * 3600 + minutes * 60
  some (if sign = '-' then -seconds else seconds, s)

/-- An offset from universal time, in seconds. -/
def readOffset? (s : List Char) : Option (Int × List Char) :=
  let s := s.dropWhile isSpace
  ((readAnyWord? ["z", "utc", "gmt"] s).map fun (_, s) => ((0 : Int), s)) <|> readSignedOffset? s

/-- A time of the day with an optional offset. -/
def readClock? (s : List Char) : Option ((Nat × Int) × List Char) := do
  let (time, s) ← readTimeOfDay? s
  let (offset, s) := optional readOffset? s
  some ((time, offset.getD 0), s)

/-- A clock after its separator. -/
def readSeparatedClock? (s : List Char) : Option ((Nat × Int) × List Char) := do
  let (_, s) ← readSeparator? s
  readClock? s

/-- The point in time that a list of characters without surrounding blanks writes. -/
def ofChars? (s : List Char) : Option Timestamp := do
  let (date, s) ← readDate? s
  let (clock, s) := optional readSeparatedClock? s
  if s.isEmpty then
    some <| match clock with
      | some (time, offset) => ofClock date time - Duration.seconds offset
      | none => ofDate date
  else none

/-- The point in time that a text writes, blanks around it aside. -/
def ofText? (text : String) : Option Timestamp :=
  ofChars? (trimChars text.toList)

end FilterSql.Timestamp
