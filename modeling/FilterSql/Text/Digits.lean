/-!
# Digits

Numbers written with the digits `0` to `9`, and the hexadecimal digits of escapes.

## Main definitions

* `FilterSql.Text.isDigit`, `FilterSql.Text.digitValue`: the decimal digits and their values.
* `FilterSql.Text.natOfDigits`: the number that a row of digits writes.
* `FilterSql.Text.digitsOfNat`, `FilterSql.Text.integer`: a number in decimal digits.
* `FilterSql.Text.padLeft`: a text filled up on the left.
* `FilterSql.Text.hexValue?`, `FilterSql.Text.hexDigits`: hexadecimal digits.
-/

namespace FilterSql.Text

/-- The digits `0` to `9`. -/
def isDigit (c : Char) : Bool :=
  '0' ≤ c && c ≤ '9'

/-- The value of a digit. -/
def digitValue (c : Char) : Nat :=
  c.toNat - '0'.toNat

/-- The number that a row of digits writes. -/
def natOfDigits (s : List Char) : Nat :=
  s.foldl (fun n c => 10 * n + digitValue c) 0

/-- A number in decimal digits, without leading zeros. -/
def digitsOfNat (n : Nat) : List Char :=
  Nat.toDigits 10 n

/-- An integer in decimal digits, with a minus sign where it is negative. -/
def integerChars : Int → List Char
  | .ofNat n => digitsOfNat n
  | .negSucc n => '-' :: digitsOfNat (n + 1)

/-- An integer in decimal digits, with a minus sign where it is negative. -/
def integer (n : Int) : String :=
  String.ofList (integerChars n)

/-- A text filled up on the left to a width. -/
def padLeft (filler : Char) (width : Nat) (s : List Char) : List Char :=
  List.replicate (width - s.length) filler ++ s

/-- A number in decimal digits, filled up with zeros to a width. -/
def paddedNat (width n : Nat) : List Char :=
  padLeft '0' width (digitsOfNat n)

/-- The value of a hexadecimal digit, of either case. -/
def hexValue? (c : Char) : Option Nat :=
  if isDigit c then some (digitValue c)
  else if 'a' ≤ c && c ≤ 'f' then some (c.toNat - 'a'.toNat + 10)
  else if 'A' ≤ c && c ≤ 'F' then some (c.toNat - 'A'.toNat + 10)
  else none

/-- The number that a row of hexadecimal digits writes. -/
def natOfHex? (s : List Char) : Option Nat :=
  s.foldlM (fun n c => (hexValue? c).map (16 * n + ·)) 0

/-- A number in small hexadecimal digits, without leading zeros. -/
def hexDigits (n : Nat) : List Char :=
  Nat.toDigits 16 n

end FilterSql.Text
