import FilterSql.Calendar.Date
import FilterSql.Decimal.Reader
import FilterSql.Decimal.Truncate
import FilterSql.Toml.Fault

/-!
# Numbers and dates of TOML

Whole numbers of 64 bits with a sign, in four bases, floating point numbers, dates and times of the
day. Single underscores may stand between two digits of a number. Nothing uses a date or a time, so
none is kept.

A fault is final from where on a text can be nothing else: after an underscore, a point, the letter
of a power of ten or of a base, the hyphen after a year, or the colon after an hour.

## Main definitions

* `FilterSql.Toml.Scalar`: a value without parts.
* `FilterSql.Toml.readInteger`, `FilterSql.Toml.readFloat`: numbers.
* `FilterSql.Toml.readMoment`: a date, a time of the day, or both.
* `FilterSql.Toml.readNumber`: any of these.
-/

namespace FilterSql.Toml

open Text

/-- A value without parts. -/
inductive Scalar where
  /-- A text. -/
  | text (s : String)
  /-- A whole number. -/
  | integer (n : Int)
  /-- A floating point number. -/
  | float (x : Float)
  /-- A boolean. -/
  | bool (b : Bool)
  /-- A date, a time of the day, or both. -/
  | moment

/-- How messages name the kind of a value. -/
def Scalar.kind : Scalar → String
  | text _ => "string"
  | integer _ => "integer"
  | float _ => "float"
  | bool _ => "boolean"
  | moment => "datetime"

/-! ### Digits -/

/-- The digits that continue a number. -/
def readMoreDigits (digit : Char → Bool) : List Char → Except Fault (List Char × List Char)
  | [] => .ok ([], [])
  | ['_'] => .error ((Fault.here []).settled.expecting ["digit"])
  | '_' :: c :: rest =>
    if digit c then (readMoreDigits digit rest).map fun (ds, rest) => (c :: ds, rest)
    else .error ((Fault.here (c :: rest)).settled.expecting ["digit"])
  | c :: rest =>
    if digit c then (readMoreDigits digit rest).map fun (ds, rest) => (c :: ds, rest)
    else .ok ([], c :: rest)

/-- At least one digit, with single underscores between digits. -/
def readDigits (digit : Char → Bool) : Reading (List Char)
  | [] => .error (.here [])
  | c :: rest =>
    if digit c then (readMoreDigits digit rest).map fun (ds, rest) => (c :: ds, rest)
    else .error (.here (c :: rest))

/-- A sign, true for minus, which may be missing. -/
def readSign : Reading Bool
  | '-' :: rest => .ok (true, rest)
  | '+' :: rest => .ok (false, rest)
  | s => .ok (false, s)

/-- The sign and the digits of a whole number without leading zeros. -/
def readWhole : Reading (Bool × List Char) :=
  .about "integer" do
    let negative ← readSign
    let digits ← (readOneOf ['0'] >>= fun c => pure [c]).orElse (readDigits isDigit)
    return (negative, digits)

/-! ### Whole numbers -/

/-- A whole number that a text begins with, if it fits 64 bits with a sign. -/
def inRange (text : List Char) (n : Int) : Reading Int :=
  if n < Decimal.minInt then throw (Fault.because .tooSmall text).settled
  else if Decimal.maxInt < n then throw (Fault.because .tooLarge text).settled
  else pure n

/-- Whether a character is a digit in the base `2 ^ width`. -/
def isBaseDigit (width : Nat) (c : Char) : Bool :=
  match hexValue? c with
  | some n => n < Nat.pow 2 width
  | none => false

/-- The number that digits write in the base `2 ^ width`. -/
def natOfBase (width : Nat) (digits : List Char) : Nat :=
  digits.foldl (fun n c => Nat.pow 2 width * n + (hexValue? c).getD 0) 0

/-- A number in the base `2 ^ width`, from the two characters on that say so. -/
def readBase (width : Nat) (name : String) : Reading Int := do
  let text ← get
  set (text.drop 2)
  let digits ← (readDigits (isBaseDigit width)).settled.about name
  inRange text (natOfBase width digits)

/-- A whole number. -/
def readInteger : Reading Int := do
  let text ← get
  match text with
  | '0' :: 'x' :: _ => readBase 4 "hexadecimal integer"
  | '0' :: 'o' :: _ => readBase 3 "octal integer"
  | '0' :: 'b' :: _ => readBase 1 "binary integer"
  | _ =>
    let (negative, digits) ← readWhole
    let n : Int := natOfDigits digits
    inRange text (if negative then -n else n)

/-! ### Floating point numbers -/

/-- The digits after a point. -/
def readFraction : Reading (List Char) := do
  let _ ← readOneOf ['.']
  (readDigits isDigit).settled.expecting ["digit"]

/-- A power of ten after its letter. -/
def readExponent : Reading Int := do
  let _ ← readOneOf ['e', 'E']
  let below ← readSign
  let digits ← (readDigits isDigit).settled
  let n : Int := natOfDigits digits
  return if below then -n else n

/-- The digits after a point and a power of ten, one of which may be missing. -/
def readPlaces : Reading (List Char × Int) :=
  Reading.orElse (readExponent >>= fun n => pure ([], n)) do
    let fraction ← readFraction
    let exponent ← readExponent.optional
    return (fraction, exponent.getD 0)

/-- A number with a point or a power of ten, which must not be too large. -/
def readDecimal : Reading Float := do
  let text ← get
  let (negative, whole) ← readWhole
  let (fraction, exponent) ← readPlaces
  let x := Decimal.ofScientific (natOfDigits (whole ++ fraction))
    (exponent - Int.ofNat fraction.length)
  if x.isInf && !negative then throw (Fault.here text).settled
  return if negative then -x else x

/-- The words for infinity and for no number. -/
def readSpecial : Reading Float :=
  Reading.orElse (readWord "inf" >>= fun _ => pure (1.0 / 0.0))
    (readWord "nan" >>= fun _ => pure (0.0 / 0.0))

/-- A floating point number. -/
def readFloat : Reading Float :=
  .about "floating-point number" <| readDecimal.orElse do
    let negative ← readSign
    let x ← readSpecial
    return if negative then -x else x

/-! ### Dates and times -/

/-- A row of digits of a fixed length. -/
def readFixed (width : Nat) : Reading Nat :=
  fun s =>
    let digits := s.take width
    if digits.length = width && digits.all isDigit then .ok (natOfDigits digits, s.drop width)
    else .error (.here s)

/-- Two digits for a number between two others. -/
def readBetween (first last : Nat) : Reading Nat := do
  let text ← get
  let n ← readFixed 2
  if first ≤ n ∧ n ≤ last then return n else throw (.because .outOfRange text)

/-- A date, by year, month and day. -/
def readDate : Reading Unit := do
  let year ← readFixed 4
  let _ ← readOneOf ['-']
  Reading.settled do
    let month ← readBetween 1 12
    let _ ← readOneOf ['-']
    let text ← get
    let day ← readBetween 1 31
    unless Date.Exists year month day do throw (.because .outOfRange text)

/-- The fraction of a second. -/
def readSecondFraction : Reading Unit := do
  let _ ← readOneOf ['.']
  let _ ← readOneOf ("0123456789".toList)
  modify fun s => s.dropWhile isDigit

/-- A time of the day to the second; a minute may have a leap second. -/
def readTime : Reading Unit := do
  let _ ← readBetween 0 23
  let _ ← readOneOf [':']
  Reading.settled do
    let _ ← readBetween 0 59
    let _ ← readOneOf [':']
    let _ ← readBetween 0 60
    let _ ← readSecondFraction.optional

/-- An offset from universal time. -/
def readOffset : Reading Unit :=
  .about "time offset" do
    let sign ← readOneOf ['Z', 'z', '+', '-']
    if sign = '+' || sign = '-' then
      Reading.settled do
        let _ ← readBetween 0 23
        let _ ← readOneOf [':']
        let _ ← readBetween 0 59

/-- A time of the day after a date, with an optional offset. -/
def readTimeAfterDate : Reading Unit := do
  let _ ← readOneOf ['T', 't', ' ']
  readTime
  let _ ← readOffset.optional

/-- A date with an optional time, or a time. -/
def readMoment : Reading Unit :=
  Reading.orElse
    (.about "date-time" do
      readDate
      let _ ← readTimeAfterDate.optional)
    (readTime.about "time")

/-- A date, a time or a number. -/
def readNumber : Reading Scalar :=
  Reading.orElse (readMoment >>= fun _ => pure .moment) <|
    Reading.orElse (.float <$> readFloat) (.integer <$> readInteger)

end FilterSql.Toml
