import FilterSql.Decimal.Binary

/-!
# The shortest decimal of a binary number

Among the decimals that read back as a given binary number, the shortest has the fewest digits,
and of those with the fewest digits it is the nearest to the number.

The decimals that read back form an interval around the number: half a unit of its last place to
each side, a quarter below a power of two, and the ends belong to it when the mantissa is even. The
grid of the multiples of `10 ^ e` meets the interval only if one of the two neighbours of the number
on that grid lies in it, so grids are tried from the coarsest on.

## Main definitions

* `FilterSql.Decimal.Scientific`: digits and a power of ten.
* `FilterSql.Decimal.Tie`: which of two equally near decimals is taken.
* `FilterSql.Decimal.shortest`: the shortest decimal of a magnitude.
-/

namespace FilterSql.Decimal

/-- The number `digits * 10 ^ exponent`. -/
structure Scientific where
  /-- The digits, as a number. -/
  digits : Nat
  /-- The power of ten. -/
  exponent : Int
deriving DecidableEq, Repr

/-- Which of two equally near decimals is taken. -/
inductive Tie where
  /-- The larger one. -/
  | up
  /-- The one whose last digit is even. -/
  | even
deriving DecidableEq, Repr

/-- The interval of the decimals that read back as a number, in quarters of its last place: the
number, its lower end and its upper end over a common denominator. -/
private structure Window where
  value : Nat
  lower : Nat
  upper : Nat
  closed : Bool

/-- The window of a magnitude. The step below a power of two is half as long, except at the least
exponent. -/
private def Magnitude.window (v : Magnitude) : Window :=
  let below := if v.mantissa = 0x10000000000000 ∧ v.exponent ≠ -1074 then 1 else 2
  { value := 4 * v.mantissa
    lower := 4 * v.mantissa - below
    upper := 4 * v.mantissa + 2
    closed := v.mantissa % 2 == 0 }

/-- Membership of `n / d` in a window whose units are worth `num / den` each. -/
private def Window.contains (w : Window) (num den n d : Nat) : Bool :=
  let x := n * den
  let lower := w.lower * num * d
  let upper := w.upper * num * d
  if w.closed then lower ≤ x && x ≤ upper else lower < x && x < upper

/-- The nearest neighbour of `v` on the grid of the multiples of `10 ^ e` that reads back as `v`. -/
private def Magnitude.onGrid (tie : Tie) (v : Magnitude) (e : Int) : Option Nat :=
  let w := v.window
  let num := Nat.pow 2 v.exponent.toNat
  let den := 4 * Nat.pow 2 (-v.exponent).toNat
  let step := Nat.pow 10 e.toNat
  let parts := Nat.pow 10 (-e).toNat
  let scaled := w.value * num * parts
  let unit := den * step
  let low := scaled / unit
  let fits (k : Nat) : Bool := w.contains num den (k * step) parts
  if fits low then
    if fits (low + 1) then
      let excess := 2 * (scaled % unit)
      if excess < unit then some low
      else if unit < excess then some (low + 1)
      else match tie with
        | .up => some (low + 1)
        | .even => some (if low % 2 = 0 then low else low + 1)
    else some low
  else if fits (low + 1) then some (low + 1)
  else none

/-- The first grid that has a decimal which reads back, from `10 ^ e` on to finer ones. -/
private def Magnitude.search (tie : Tie) (v : Magnitude) : Nat → Int → Scientific
  | 0, e => ⟨0, e⟩
  | tries + 1, e =>
    match v.onGrid tie e with
    | some digits => ⟨digits, e⟩
    | none => search tie v tries (e - 1)

/-- A decimal without zeros at its end. -/
private def Scientific.strip : Nat → Scientific → Scientific
  | 0, s => s
  | tries + 1, s =>
    if s.digits ≠ 0 ∧ s.digits % 10 = 0 then
      strip tries ⟨s.digits / 10, s.exponent + 1⟩
    else s

/-- The shortest decimal of a magnitude, without zeros at its end; zero has the digit zero.

Seventeen digits always read back, and the search starts at most three places above the first
digit. -/
def shortest (tie : Tie) (v : Magnitude) : Scientific :=
  if v.mantissa = 0 then ⟨0, 0⟩
  else
    let top := (Int.ofNat (Nat.log2 v.mantissa) + v.exponent + 1) * 30103 / 100000 + 2
    (v.search tie 24 top).strip 24

end FilterSql.Decimal
