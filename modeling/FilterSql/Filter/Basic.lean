import FilterSql.Filter.Connective
import FilterSql.Json.Basic

/-!
# Filters

A filter is a group of nodes. A node is a clause, which compares a data source with a raw value, or
again a group. A group keeps the name of its connective as it was written, since a wrong name is
reported only when the filter is resolved.

## Main definitions

* `FilterSql.Clause`, `FilterSql.Node`, `FilterSql.Filter`: the parts of a filter.
* `FilterSql.Filter.group`: a filter whose connective is known.
-/

namespace FilterSql

/-- A comparison of a data source with a raw value. -/
structure Clause where
  /-- The display name of the data source. -/
  source : String
  /-- The name of the operator. -/
  operator : String
  /-- The value, as it was written. -/
  value : Json

/-- A node of a filter. -/
inductive Node where
  /-- A comparison. -/
  | clause (c : Clause)
  /-- A group of nodes with the name of its connective, if it has one. -/
  | group (connective : Option String) (children : List Node)

/-- A filter: the group at the root. -/
structure Filter where
  /-- The name of the connective, if there is one. -/
  connective : Option String
  /-- The nodes of the group. -/
  children : List Node

namespace Filter

/-- A filter as a node of another one. -/
def toNode (f : Filter) : Node :=
  .group f.connective f.children

/-- A group with a known connective. -/
def group (c : Connective) (children : List Node) : Filter :=
  ⟨some c.symbol, children⟩

/-- A filter without nodes. -/
def isEmpty (f : Filter) : Bool :=
  f.children.isEmpty

/-- A filter wrapped as the single child of `n` groups whose connectives alternate, from the inside
on, starting with `all`. -/
def wrap (f : Filter) : Nat → Filter
  | 0 => f
  | n + 1 => group (if n % 2 = 0 then .all else .any) [(f.wrap n).toNode]

end Filter

end FilterSql
