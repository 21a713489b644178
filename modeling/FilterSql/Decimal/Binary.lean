/-!
# Binary floating point numbers as fractions

A finite number of the 64-bit binary format is `m * 2 ^ q` for a natural number `m` and an
integer `q`. Decimal texts are computed from this pair in exact arithmetic.

## Main definitions

* `FilterSql.Decimal.Magnitude`: the pair `m`, `q` of a finite number without its sign.
* `FilterSql.Decimal.Binary`: the classes of numbers.
* `FilterSql.Decimal.Binary.ofFloat`: the class of a number, read off its bits.
-/

namespace FilterSql.Decimal

/-- The number `mantissa * 2 ^ exponent`. -/
structure Magnitude where
  /-- The factor `m`. -/
  mantissa : Nat
  /-- The power `q` of two. -/
  exponent : Int
deriving DecidableEq, Repr

namespace Magnitude

/-- The numerator of the number as a fraction. -/
def numerator (v : Magnitude) : Nat :=
  v.mantissa * Nat.pow 2 v.exponent.toNat

/-- The denominator of the number as a fraction. -/
def denominator (v : Magnitude) : Nat :=
  Nat.pow 2 (-v.exponent).toNat

end Magnitude

/-- A number of the 64-bit binary format. -/
inductive Binary where
  /-- No number. -/
  | nan
  /-- Infinity, with its sign. -/
  | infinite (negative : Bool)
  /-- A finite number, with its sign. -/
  | finite (negative : Bool) (magnitude : Magnitude)
deriving DecidableEq, Repr

namespace Binary

/-- The class of a number: the sign bit, eleven bits of exponent, and 52 bits of the mantissa, whose
leading one is left out unless the exponent bits are all zero. -/
def ofFloat (x : Float) : Binary :=
  let bits := x.toBits.toNat
  let negative := bits / 0x8000000000000000 == 1
  let exponent := bits / 0x10000000000000 % 0x800
  let fraction := bits % 0x10000000000000
  if exponent = 2047 then
    if fraction = 0 then infinite negative else nan
  else if exponent = 0 then
    finite negative ⟨fraction, -1074⟩
  else
    finite negative ⟨0x10000000000000 + fraction, Int.ofNat exponent - 1075⟩

end Binary

end FilterSql.Decimal
