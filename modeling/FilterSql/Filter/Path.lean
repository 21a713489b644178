import FilterSql.Text.Digits

/-!
# Places in a filter

A node of a filter is found from the root by the indexes of the children to follow.

## Main definitions

* `FilterSql.Path`: the indexes that lead to a node.
* `FilterSql.Path.child`: the place of a child.
* `FilterSql.Path.text`: a place as messages show it.
-/

namespace FilterSql

open Text

/-- The place of a node in a filter. -/
structure Path where
  /-- The indexes of the children that lead from the root to the node. -/
  indexes : List Nat
deriving DecidableEq, Repr

namespace Path

/-- The place of the root. -/
def root : Path := ⟨[]⟩

/-- The place of a child of a node. -/
def child (p : Path) (index : Nat) : Path :=
  ⟨p.indexes ++ [index]⟩

/-- Whether a place is that of the root. -/
def isRoot (p : Path) : Bool :=
  p.indexes.isEmpty

/-- A place as messages show it. -/
def text (p : Path) : String :=
  if p.isRoot then "filter"
  else ".".intercalate (p.indexes.map fun i : Nat => "filter_clauses[" ++ integer i ++ "]")

end Path

end FilterSql
