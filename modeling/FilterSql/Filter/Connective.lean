import FilterSql.Text.Blank
import FilterSql.Text.Case

/-!
# Connectives

The conditions of a group are joined by a connective: all of them have to hold, or one of them.

## Main definitions

* `FilterSql.Connective`: the two connectives.
* `FilterSql.Connective.ofText?`: the connective that a group names; a group that names none means
  that all of its conditions have to hold.
* `FilterSql.Connective.separator`: what stands between two joined conditions.
-/

namespace FilterSql

open Text

/-- How the conditions of a group are joined. -/
inductive Connective where
  /-- All conditions have to hold. -/
  | all
  /-- One of the conditions has to hold. -/
  | any
deriving DecidableEq, Repr

namespace Connective

/-- The connective that a name stands for. -/
def ofName? (name : String) : Option Connective :=
  let word := lower (trim name)
  if word = "&" ∨ word = "and" then some all
  else if word = "|" ∨ word = "or" then some any
  else none

/-- The connective of a group; one that names none joins by `all`. -/
def ofText? : Option String → Option Connective
  | none => some all
  | some name => ofName? name

/-- The sign of a connective in stored filters. -/
def symbol : Connective → String
  | all => "&"
  | any => "|"

/-- What stands between two joined conditions. -/
def separator : Connective → String
  | all => "\n AND \n"
  | any => "\n OR \n"

end Connective

end FilterSql
