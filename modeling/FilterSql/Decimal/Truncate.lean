import FilterSql.Decimal.Binary
import FilterSql.Decimal.Reader

/-!
# Whole parts

The whole part of a binary number, toward zero, within the range of 64 bits: numbers beyond the
range give its ends, and what is no number gives zero.

## Main definitions

* `FilterSql.Decimal.truncate`: the whole part of a number.
-/

namespace FilterSql.Decimal

/-- The nearest whole number of 64 bits. -/
def clampInt (n : Int) : Int :=
  max minInt (min maxInt n)

/-- The whole part of a number, toward zero. -/
def Binary.truncate : Binary → Int
  | nan => 0
  | infinite negative => if negative then minInt else maxInt
  | finite negative v =>
    let whole : Int := v.numerator / v.denominator
    clampInt (if negative then -whole else whole)

/-- The whole part of a number, toward zero. -/
def truncate (x : Float) : Int :=
  (Binary.ofFloat x).truncate

end FilterSql.Decimal
