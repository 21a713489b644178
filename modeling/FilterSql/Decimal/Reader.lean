import FilterSql.Text.Digits

/-!
# Reading decimal texts

Numbers arrive as texts: whole numbers of 64 bits, and floating point literals with a point, a power
of ten, or the words for infinity and for no number.

## Main definitions

* `FilterSql.Decimal.readInt?`: a whole number in the range of 64 bits.
* `FilterSql.Decimal.readFloat?`: the nearest binary number to a literal.
* `FilterSql.Decimal.ofScientific`: the nearest binary number to `digits * 10 ^ exponent`.
-/

namespace FilterSql.Decimal

open Text

/-- The least whole number of 64 bits. -/
def minInt : Int := -0x8000000000000000

/-- The greatest whole number of 64 bits. -/
def maxInt : Int := 0x7FFFFFFFFFFFFFFF

/-- A whole number in the range of 64 bits: an optional sign and at least one digit. -/
def readInt? (s : List Char) : Option Int :=
  let (negative, digits) := match s with
    | '-' :: rest => (true, rest)
    | '+' :: rest => (false, rest)
    | rest => (false, rest)
  if digits.isEmpty || !digits.all isDigit then none
  else
    let n : Int := natOfDigits digits
    let value := if negative then -n else n
    if minInt ≤ value ∧ value ≤ maxInt then some value else none

/-- The nearest binary number to `digits * 10 ^ exponent`. Powers beyond the format's range give
infinity or zero at once. -/
def ofScientific (digits : Nat) (exponent : Int) : Float :=
  let length := Int.ofNat (digitsOfNat digits).length
  if digits = 0 || length + exponent < -340 then 0.0
  else if 320 < length + exponent then 1.0 / 0.0
  else match exponent with
    | .ofNat e => Float.ofScientific digits false e
    | .negSucc e => Float.ofScientific digits true (e + 1)

/-- The power of ten after the digits of a literal, if it is well formed. -/
def readExponent? : List Char → Option Int
  | [] => some 0
  | c :: rest =>
    if c = 'e' || c = 'E' then
      let (negative, digits) := match rest with
        | '-' :: digits => (true, digits)
        | '+' :: digits => (false, digits)
        | digits => (false, digits)
      if digits.isEmpty || !digits.all isDigit then none
      else
        let n : Int := natOfDigits digits
        some (if negative then -n else n)
    else none

/-- A literal without its sign. -/
def readUnsigned? (s : List Char) : Option Float :=
  let word := s.map Char.toLower
  if word = "inf".toList || word = "infinity".toList then some (1.0 / 0.0)
  else if word = "nan".toList then some (0.0 / 0.0)
  else
    let whole := s.takeWhile isDigit
    let rest := s.dropWhile isDigit
    let (fraction, tail) := match rest with
      | '.' :: after => (after.takeWhile isDigit, after.dropWhile isDigit)
      | _ => ([], rest)
    if whole.isEmpty && fraction.isEmpty then none
    else
      (readExponent? tail).map fun e =>
        ofScientific (natOfDigits (whole ++ fraction)) (e - Int.ofNat fraction.length)

/-- The nearest binary number to a literal: an optional sign, then digits with an optional point and
an optional power of ten, or a word for infinity or for no number in any case. -/
def readFloat? (s : List Char) : Option Float :=
  match s with
  | '-' :: rest => (readUnsigned? rest).map (-·)
  | '+' :: rest => readUnsigned? rest
  | _ => readUnsigned? s

end FilterSql.Decimal
