import FilterSql.Decimal.Shortest
import FilterSql.Text.Digits

/-!
# Written decimals

A number is written by the digits of its shortest decimal. A style says which numbers are written
with a plain point and which with a power of ten, and how.

## Main definitions

* `FilterSql.Decimal.Style`: the decisions of a style.
* `FilterSql.Decimal.Style.plain`, `FilterSql.Decimal.Style.typed`, `FilterSql.Decimal.Style.json`:
  the styles of parameters, of messages and of JSON.
* `FilterSql.Decimal.Style.write`: a number in a style.
* `FilterSql.Decimal.writeFixed`: a number with a fixed count of places.
-/

namespace FilterSql.Decimal

open Text

/-- How numbers are written. -/
structure Style where
  /-- The least power of ten of a first digit that is written with a plain point, if any. -/
  least : Option Int
  /-- The first power of ten of a first digit that is not written with a plain point, if any. -/
  limit : Option Int
  /-- A whole number written plainly keeps a point and a zero. -/
  keepsPoint : Bool
  /-- A positive power of ten has a plus sign. -/
  plusSign : Bool
  /-- Which of two equally near decimals is taken. -/
  tie : Tie

namespace Style

/-- Parameters and summaries are written without a power of ten, and whole numbers without a
point. -/
def plain : Style :=
  { least := none, limit := none, keepsPoint := false, plusSign := false, tie := .up }

/-- Messages write numbers from `1e-4` up to `1e16` plainly, with a point. -/
def typed : Style :=
  { least := some (-4), limit := some 16, keepsPoint := true, plusSign := false, tie := .up }

/-- JSON writes numbers from `1e-5` up to `1e16` plainly, with a point. -/
def json : Style :=
  { least := some (-5), limit := some 16, keepsPoint := true, plusSign := true, tie := .even }

/-- The digits `digits * 10 ^ exponent` with a plain point. -/
def positional (style : Style) (digits : List Char) (exponent : Int) : List Char :=
  match exponent with
  | .ofNat zeros =>
    digits ++ List.replicate zeros '0' ++ (if style.keepsPoint then ['.', '0'] else [])
  | .negSucc n =>
    let places := n + 1
    let padded := padLeft '0' (places + 1) digits
    padded.take (padded.length - places) ++ '.' :: padded.drop (padded.length - places)

/-- The digits `digits * 10 ^ exponent` with a power of ten. -/
def scientific (style : Style) (digits : List Char) (exponent : Int) : List Char :=
  let power := exponent + Int.ofNat digits.length - 1
  let fraction := digits.drop 1
  digits.take 1 ++ (if fraction.isEmpty then [] else '.' :: fraction) ++ ['e'] ++
    (if style.plusSign && 0 ≤ power then ['+'] else []) ++ integerChars power

/-- A magnitude in a style. -/
def writeMagnitude (style : Style) (v : Magnitude) : List Char :=
  let s := shortest style.tie v
  let digits := digitsOfNat s.digits
  let power := s.exponent + Int.ofNat digits.length - 1
  let plainly := s.digits = 0 ∨
    (style.least.all (· ≤ power) ∧ style.limit.all (power < ·))
  if plainly then style.positional digits s.exponent
  else style.scientific digits s.exponent

/-- A number in a style. -/
def write (style : Style) (x : Float) : String :=
  match Binary.ofFloat x with
  | .nan => "NaN"
  | .infinite negative => if negative then "-inf" else "inf"
  | .finite negative v =>
    String.ofList ((if negative then ['-'] else []) ++ style.writeMagnitude v)

end Style

/-- The nearest natural number to `num / den`, and the even one of two equally near. -/
def roundDiv (num den : Nat) : Nat :=
  let low := num / den
  let excess := 2 * (num % den)
  if excess < den then low
  else if den < excess then low + 1
  else if low % 2 = 0 then low else low + 1

/-- A finite number with `places` digits after the point, exactly rounded. -/
def writeFixed (places : Nat) (x : Float) : String :=
  match Binary.ofFloat x with
  | .nan => "NaN"
  | .infinite negative => if negative then "-inf" else "inf"
  | .finite negative v =>
    let scaled := roundDiv (v.numerator * Nat.pow 10 places) v.denominator
    let digits := padLeft '0' (places + 1) (digitsOfNat scaled)
    let whole := digits.take (digits.length - places)
    let fraction := digits.drop (digits.length - places)
    String.ofList ((if negative then ['-'] else []) ++ whole ++
      (if places = 0 then [] else '.' :: fraction))

end FilterSql.Decimal
