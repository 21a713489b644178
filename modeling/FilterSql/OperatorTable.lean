import FilterSql.Operator

/-!
# The table of operators

The operators that clauses can use, in order. A name may occur once for each value type, whatever
the case of its letters. A clause finds the last operator of its name among the value types of its
data source.

## Main definitions

* `FilterSql.OperatorTable`: a table of operators.
* `FilterSql.OperatorTable.standard`: the operators that are always there.
* `FilterSql.OperatorTable.push`: one more operator.
* `FilterSql.OperatorTable.resolve`: the operator that a clause means.
-/

namespace FilterSql

open Text

/-- The operators that clauses can use. -/
structure OperatorTable where
  /-- The operators in their order. -/
  operators : List Operator
deriving DecidableEq, Repr

namespace OperatorTable

/-- The table without operators. -/
def empty : OperatorTable := ⟨[]⟩

/-- The operators that are always there. -/
def standard : OperatorTable := ⟨[
  { name := ">=", type := .numeric },
  { name := "<=", type := .numeric },
  { name := ">", type := .numeric },
  { name := "<", type := .numeric },
  { name := "is", type := .numeric },
  { name := "is not", type := .numeric, negative := true },
  { name := "is", type := .string },
  { name := "is not", type := .string, negative := true },
  { name := "contains", type := .string },
  { name := "starts with", type := .string },
  { name := "more than __ words", type := .stringLength, coalesced := some .numeric,
    template := some "\x7bdata_source\x7d has more than \x7bvalue\x7d words" },
  { name := "fewer than __ words", type := .stringLength, coalesced := some .numeric,
    template := some "\x7bdata_source\x7d has fewer than \x7bvalue\x7d words" },
  { name := "any of", type := .collection },
  { name := "is", type := .bool },
  { name := "not any of", type := .collection, negative := true },
  { name := "within", type := .relativeDate },
  { name := "outside of", type := .relativeDate, negative := true },
  { name := "after", type := .absoluteDate },
  { name := "before", type := .absoluteDate },
  { name := "is set", type := .nullable, negative := true, coalesced := some .bool }]⟩

/-- Whether two operators have the same value type and the same name up to the case of letters. -/
def clashes (a b : Operator) : Bool :=
  a.type == b.type && sameIgnoringCase a.name b.name

/-- The table with one more operator at its end, unless it clashes with one that is there. -/
def push (table : OperatorTable) (op : Operator) : Except Cause OperatorTable :=
  if table.operators.any (clashes · op) then .error (.duplicateOperator op.name op.type)
  else .ok ⟨table.operators ++ [op]⟩

/-- The table with more operators at its end, one after another. -/
def pushAll (table : OperatorTable) (ops : List Operator) : Except Cause OperatorTable :=
  ops.foldlM push table

/-- Whether an operator has a name, which has no blanks around it, and one of some value types. -/
def answers (name : String) (types : List ValueType) (op : Operator) : Bool :=
  sameIgnoringCase op.name name && types.contains op.type

/-- The operator that a clause means: the last one of its name, blanks around that aside, among the
value types of its data source. -/
def resolve (table : OperatorTable) (name : String) (types : List ValueType) :
    Except Cause Operator :=
  match (table.operators.filter (answers (trim name) types)).getLast? with
  | some op => .ok op
  | none => .error (.unknownOperator (trim name))

end OperatorTable

end FilterSql
