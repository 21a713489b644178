import FilterSql.Text.Digits

/-!
# Addresses of databases

An address begins with a scheme: a letter, then letters, digits and the signs `+`, `-` and `.` up to
a colon. Blanks and control characters around an address do not count, nor do tabs and ends of lines
in it. Without a scheme there is nothing to connect to; an address with one is not followed.

## Main definitions

* `FilterSql.CommandLine.hasScheme`: whether an address begins with a scheme.
* `FilterSql.CommandLine.connectionProblem`: why there is no connection to an address.
-/

namespace FilterSql.CommandLine

open Text

/-- A letter of ASCII. -/
def isSchemeLetter (c : Char) : Bool :=
  ('a' ≤ c && c ≤ 'z') || ('A' ≤ c && c ≤ 'Z')

/-- A character of a scheme after its first letter. -/
def isSchemeChar (c : Char) : Bool :=
  isSchemeLetter c || isDigit c || c = '+' || c = '-' || c = '.'

/-- The characters of an address that count. -/
def addressChars (address : String) : List Char :=
  let s := address.toList.dropWhile (· ≤ ' ')
  let s := (s.reverse.dropWhile (· ≤ ' ')).reverse
  s.filter fun c => c ≠ '\t' && c ≠ '\n' && c ≠ '\r'

/-- Whether an address begins with a scheme. -/
def hasScheme (address : String) : Bool :=
  let s := addressChars address
  s.head?.any isSchemeLetter && (s.dropWhile isSchemeChar).head? == some ':'

/-- Why there is no connection to an address. -/
def connectionProblem (address : String) : String :=
  if hasScheme address then "no connection"
  else "error with configuration: relative URL without a base"

end FilterSql.CommandLine
