import FilterSql.Catalog
import FilterSql.Filter.Basic
import FilterSql.OperatorTable
import FilterSql.Value.Reader

/-!
# Resolved filters

A filter is resolved against a catalog and a table of operators: each group gets its connective,
each clause its data source, its operator and its value. The first node that fails, a group before
its children and children in their order, gives the error, with its place in the filter.

## Main definitions

* `FilterSql.ResolvedClause`, `FilterSql.ResolvedNode`, `FilterSql.ResolvedFilter`: the parts of a
  resolved filter.
* `FilterSql.ResolvedFilter.clauses`: its clauses, in order.
* `FilterSql.Clause.resolve`, `FilterSql.Filter.resolve`: resolution.
-/

namespace FilterSql

/-- A clause with its data source, its operator and its value. -/
structure ResolvedClause where
  /-- The clause as it was written. -/
  clause : Clause
  /-- The data source it names. -/
  source : DataSource
  /-- The operator it names. -/
  operator : Operator
  /-- The value of the type that the operator reads. -/
  value : Value
  /-- The place of the clause. -/
  path : Path

/-- A node of a resolved filter. -/
inductive ResolvedNode where
  /-- A clause. -/
  | clause (c : ResolvedClause)
  /-- A group with its connective and its place. -/
  | group (connective : Connective) (children : List ResolvedNode) (path : Path)

/-- A resolved filter: the group at the root. -/
structure ResolvedFilter where
  /-- The connective of the group. -/
  connective : Connective
  /-- The nodes of the group. -/
  children : List ResolvedNode
  /-- The place of the group. -/
  path : Path

mutual

/-- The clauses of a node, in order. -/
def ResolvedNode.clauses : ResolvedNode → List ResolvedClause
  | .clause c => [c]
  | .group _ children _ => ResolvedNode.clausesOfList children
termination_by structural n => n

/-- The clauses of a list of nodes, in order. -/
def ResolvedNode.clausesOfList : List ResolvedNode → List ResolvedClause
  | [] => []
  | n :: ns => n.clauses ++ ResolvedNode.clausesOfList ns
termination_by structural ns => ns

end

/-- The clauses of a resolved filter, in order. -/
def ResolvedFilter.clauses (f : ResolvedFilter) : List ResolvedClause :=
  ResolvedNode.clausesOfList f.children

/-- A clause with its data source, then its operator among the value types of that, then its
value. -/
def Clause.resolve (catalog : Catalog) (table : OperatorTable) (path : Path) (c : Clause) :
    Except Cause ResolvedClause := do
  let source ← catalog.resolve c.source
  let operator ← table.resolve c.operator source.types
  let value ← Value.read operator.readType c.value
  return { clause := c, source, operator, value, path }

/-- The connective of a group. -/
def Connective.resolve (path : Path) (name : Option String) : Except Error Connective :=
  match Connective.ofText? name with
  | some c => .ok c
  | none => .error (Error.at (Cause.invalidConnective (name.getD "")) path)

mutual

/-- A node at its place. -/
def Node.resolve (catalog : Catalog) (table : OperatorTable) (path : Path) :
    Node → Except Error ResolvedNode
  | .clause c =>
    match c.resolve catalog table path with
    | .ok c => .ok (.clause c)
    | .error cause => .error (Error.at cause path)
  | .group name children => do
    let connective ← Connective.resolve path name
    let children ← Node.resolveList catalog table path 0 children
    return .group connective children path
termination_by structural n => n

/-- The children of a group from the one with an index on. -/
def Node.resolveList (catalog : Catalog) (table : OperatorTable) (path : Path) (index : Nat) :
    List Node → Except Error (List ResolvedNode)
  | [] => .ok []
  | n :: ns => do
    let n ← n.resolve catalog table (path.child index)
    let ns ← Node.resolveList catalog table path (index + 1) ns
    return n :: ns
termination_by structural ns => ns

end

/-- A filter with every node resolved. -/
def Filter.resolve (catalog : Catalog) (table : OperatorTable) (f : Filter) :
    Except Error ResolvedFilter := do
  let connective ← Connective.resolve .root f.connective
  let children ← Node.resolveList catalog table .root 0 f.children
  return { connective, children, path := .root }

end FilterSql
