/-!
# Thousands separators

In a decimal text the digits before the point are grouped by commas, three to a group from the
right. The sign and what follows the point stay as they are.

## Main definitions

* `FilterSql.Decimal.groupDigits`: the digits of a whole number in groups.
* `FilterSql.Decimal.groupThousands`: a decimal text in groups.
-/

namespace FilterSql.Decimal

/-- The digits of a whole number in groups of three from the right. -/
def groupDigits : List Char → List Char
  | [] => []
  | c :: rest =>
    if rest.length % 3 = 0 ∧ rest ≠ [] then c :: ',' :: groupDigits rest
    else c :: groupDigits rest

/-- An unsigned decimal text with the digits before its point in groups. -/
def groupUnsigned (s : List Char) : List Char :=
  groupDigits (s.takeWhile (· ≠ '.')) ++ s.dropWhile (· ≠ '.')

/-- A decimal text with the digits before its point in groups. -/
def groupThousands (s : List Char) : List Char :=
  match s with
  | '-' :: rest => '-' :: groupUnsigned rest
  | _ => groupUnsigned s

end FilterSql.Decimal
