import FilterSql.Override

/-!
# Compiling filters

A filter is compiled in two passes: it is resolved, and the resolved filter is turned into one
condition. The conditions of a group are joined by its connective between parentheses. A group
without conditions puts no restriction on rows; such a group is left out of a group whose conditions
all have to hold, and lifts every restriction of a group one of whose conditions has to hold.

## Main definitions

* `FilterSql.Compiler`: the setting of a compilation.
* `FilterSql.Compiler.clauseCondition`: the condition of a clause.
* `FilterSql.Compiler.condition`: the condition of a filter, if it puts a restriction on rows.
* `FilterSql.Compiler.query`: the query of a filter.
* `FilterSql.Compiler.summaries`: the clauses of a filter in words.
-/

namespace FilterSql

/-- The setting of a compilation. -/
structure Compiler extends Environment where
  /-- The overrides of conditions. -/
  overrides : Overrides

/-- The query of a condition over a table; without a condition it selects every row. -/
def selectQuery (table : String) (condition : Option Fragment) : Except Cause Fragment := do
  let start ← (Fragment.sql "SELECT * FROM ").pushIdentifier table
  return match condition with
    | some f => start.push " WHERE " ++ f
    | none => start.push " WHERE " |>.push "TRUE"

namespace Compiler

/-- A filter resolved against the catalog and the operators. -/
def resolve (compiler : Compiler) (f : Filter) : Except Error ResolvedFilter :=
  f.resolve compiler.catalog compiler.operators

/-- Whether a filter can be resolved. -/
def validate (compiler : Compiler) (f : Filter) : Except Error Unit :=
  (compiler.resolve f).map fun _ => ()

/-- The condition of a clause: that of the override for its data source and the value type of its
operator, or the default one. -/
def clauseCondition (compiler : Compiler) (c : ResolvedClause) : Except Error Fragment :=
  match compiler.overrides.lookup c.source.displayName c.operator.type with
  | some override => override compiler.toEnvironment c
  | none => compiler.defaultCondition c

/-- The condition of a group from those of its children, of which the ones without a restriction are
`none`. -/
def joinConditions (connective : Connective) (parts : List (Option Fragment)) : Option Fragment :=
  let conditions := parts.filterMap id
  if conditions.isEmpty || (connective == .any && parts.any Option.isNone) then none
  else some (Fragment.join connective.separator conditions).parenthesize

mutual

/-- The condition of a node, if it puts a restriction on rows. -/
def nodeCondition (compiler : Compiler) : ResolvedNode → Except Error (Option Fragment)
  | .clause c =>
    match compiler.clauseCondition c with
    | .ok f => .ok (some f)
    | .error e => .error (e.at c.path)
  | .group connective children _ => do
    let parts ← compiler.nodeConditions children
    return joinConditions connective parts
termination_by structural n => n

/-- The conditions of the nodes of a group. -/
def nodeConditions (compiler : Compiler) :
    List ResolvedNode → Except Error (List (Option Fragment))
  | [] => .ok []
  | n :: ns => do
    let part ← compiler.nodeCondition n
    let parts ← compiler.nodeConditions ns
    return part :: parts
termination_by structural ns => ns

end

/-- The condition of a resolved filter, if it puts a restriction on rows. -/
def resolvedCondition (compiler : Compiler) (f : ResolvedFilter) :
    Except Error (Option Fragment) := do
  let parts ← compiler.nodeConditions f.children
  return joinConditions f.connective parts

/-- The condition of a filter, if it puts a restriction on rows. -/
def condition (compiler : Compiler) (f : Filter) : Except Error (Option Fragment) := do
  compiler.resolvedCondition (← compiler.resolve f)

/-- The query of a filter. -/
def query (compiler : Compiler) (f : Filter) : Except Error Fragment := do
  let condition ← compiler.condition f
  (selectQuery compiler.table condition).mapError fun cause => ⟨cause, none⟩

/-- The clauses of a filter in words. -/
def summaries (compiler : Compiler) (f : Filter) : Except Error (List String) := do
  return (← compiler.resolve f).clauses.map ResolvedClause.summary

end Compiler

end FilterSql
