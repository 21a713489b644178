import FilterSql.Json.Basic
import FilterSql.Json.Error
import FilterSql.Text.Digits

/-!
# Reading JSON numbers

The digits of a number are taken into one whole number, its significand, as long as that fits 64
bits; later digits only count for the power of ten. A number without point and power that fits 64
bits is kept exactly. Every other number is its significand as a binary number, multiplied by or
divided by a power of ten, which may differ from the nearest binary number in the last place.

## Main definitions

* `FilterSql.Json.readNumber`: a number after its sign.
-/

namespace FilterSql.Json

open Text

/-- What a reader gives: a value and the text not yet read, or a fault. -/
abbrev Reading (α : Type) := Except Fault (α × List Char)

/-- A whole number as a JSON number. -/
def Number.ofInt (n : Int) : Number :=
  if h : Exact n then int n h else float (Float.ofInt n)

/-- The first character is a digit. -/
def startsWithDigit : List Char → Bool
  | c :: _ => isDigit c
  | [] => false

/-- Take digits into a significand as long as it stays within a limit. -/
def takeDigits (limit : Nat) : Nat → List Char → Nat × List Char
  | n, [] => (n, [])
  | n, c :: rest =>
    if isDigit c && 10 * n + digitValue c ≤ limit then
      takeDigits limit (10 * n + digitValue c) rest
    else (n, c :: rest)

/-- The greatest significand. -/
def maxSignificand : Nat := 0xFFFFFFFFFFFFFFFF

/-- The greatest power of ten that is read. -/
def maxExponent : Nat := 0x7FFFFFFF

/-- A power of ten as a binary number. -/
private def powerOfTen (n : Nat) : Float :=
  Float.ofScientific 1 false n

/-- The binary number `x * 10 ^ exponent`, by as few multiplications or divisions as the range of
the powers allows; none if it is too large. -/
private def scale : Nat → Float → Int → Option Float
  | 0, x, _ => some x
  | tries + 1, x, exponent =>
    if exponent.natAbs ≤ 308 then
      if 0 ≤ exponent then
        let y := x * powerOfTen exponent.natAbs
        if y.isInf then none else some y
      else some (x / powerOfTen exponent.natAbs)
    else if x == 0.0 then some x
    else if 0 ≤ exponent then none
    else scale tries (x / powerOfTen 308) (exponent + 308)

/-- The number of a significand and a power of ten. -/
def ofParts (negative : Bool) (significand : Nat) (exponent : Int) (rest : List Char) :
    Reading Number :=
  match scale 8 (Float.ofNat significand) exponent with
  | some x => .ok (.float (if negative then -x else x), rest)
  | none => .error (.here .numberOutOfRange rest)

/-- The power of ten after its letter and its sign. -/
def readExponentDigits (negative : Bool) (significand : Nat) (exponent : Int) (below : Bool)
    (digits : List Char) : Reading Number :=
  if digits.isEmpty then .error (.here .endInValue digits)
  else if !startsWithDigit digits then .error (.next .invalidNumber digits)
  else
    let (power, rest) := takeDigits maxExponent 0 digits
    if startsWithDigit rest then
      if significand ≠ 0 && !below then .error (.next .numberOutOfRange rest)
      else .ok (.float (if negative then -0.0 else 0.0), rest.dropWhile isDigit)
    else
      ofParts negative significand (if below then exponent - power else exponent + power) rest

/-- The power of ten after its letter. -/
def readExponent (negative : Bool) (significand : Nat) (exponent : Int) (s : List Char) :
    Reading Number :=
  match s with
  | '+' :: rest => readExponentDigits negative significand exponent false rest
  | '-' :: rest => readExponentDigits negative significand exponent true rest
  | _ => readExponentDigits negative significand exponent false s

/-- The power of ten of a number, if one is written. -/
def readPower (negative : Bool) (significand : Nat) (exponent : Int) (s : List Char) :
    Reading Number :=
  match s with
  | 'e' :: rest => readExponent negative significand exponent rest
  | 'E' :: rest => readExponent negative significand exponent rest
  | _ => ofParts negative significand exponent s

/-- The digits after the point, and the power of ten. -/
def readFraction (negative : Bool) (significand : Nat) (exponent : Int) (s : List Char) :
    Reading Number :=
  let (significand, rest) := takeDigits maxSignificand significand s
  let places := s.length - rest.length
  if startsWithDigit rest then
    readPower negative significand (exponent - places) (rest.dropWhile isDigit)
  else if places = 0 then
    .error (.next (if rest.isEmpty then .endInValue else .invalidNumber) rest)
  else readPower negative significand (exponent - places) rest

/-- What follows the whole digits of a number: nothing, a point, or a power of ten. -/
def readTail (negative : Bool) (significand : Nat) (s : List Char) : Reading Number :=
  match s with
  | '.' :: rest => readFraction negative significand 0 rest
  | 'e' :: rest => readExponent negative significand 0 rest
  | 'E' :: rest => readExponent negative significand 0 rest
  | _ =>
    if negative && significand = 0 then .ok (.float (-0.0), s)
    else .ok (.ofInt (if negative then -significand else significand), s)

/-- What follows the whole digits of a number that have left the range of the significand. -/
def readLongTail (negative : Bool) (significand : Nat) (s : List Char) : Reading Number :=
  let rest := s.dropWhile isDigit
  let exponent := Int.ofNat (s.length - rest.length)
  match rest with
  | '.' :: rest => readFraction negative significand exponent rest
  | _ => readPower negative significand exponent rest

/-- A number after its sign. -/
def readNumber (negative : Bool) (s : List Char) : Reading Number :=
  match s with
  | [] => .error (.here .endInValue [])
  | '0' :: rest =>
    if startsWithDigit rest then .error (.next .invalidNumber rest)
    else readTail negative 0 rest
  | c :: rest =>
    if isDigit c then
      let (significand, rest) := takeDigits maxSignificand (digitValue c) rest
      if startsWithDigit rest then readLongTail negative significand rest
      else readTail negative significand rest
    else .error (.next .invalidNumber (c :: rest))

end FilterSql.Json
