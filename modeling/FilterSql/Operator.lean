import FilterSql.Error
import FilterSql.Json.Dialect
import FilterSql.Text.Blank
import FilterSql.Text.Case

/-!
# Operators

An operator has a name and belongs to one value type; the same name may belong to several types. Its
values may be read under another type than its own, as the word counts of texts are read as numbers.

## Main definitions

* `FilterSql.Operator`: an operator.
* `FilterSql.Operator.readType`: the type that its values are read under.
* `FilterSql.Operator.keyword`: its name without blanks around it and without capital letters.
* `FilterSql.Operator.sign`: the sign of an operator in SQL.
-/

namespace FilterSql

open Text

/-- An operator that compares a data source with a value. -/
structure Operator where
  /-- The name that clauses use. -/
  name : String
  /-- The value type it belongs to. -/
  type : ValueType
  /-- Whether it selects what it does not match. -/
  negative : Bool := false
  /-- The type its values are read under, where that is not its own. -/
  coalesced : Option ValueType := none
  /-- The summary of a clause, with slots for the data source and the value. -/
  template : Option String := none
deriving DecidableEq, Repr

namespace Operator

/-- The type that the values of an operator are read under. -/
def readType (op : Operator) : ValueType :=
  op.coalesced.getD op.type

/-- A name without blanks around it and without capital letters. -/
def keywordOf (name : String) : String :=
  lower (trim name)

/-- The name of an operator without blanks around it and without capital letters. -/
def keyword (op : Operator) : String :=
  keywordOf op.name

/-- The sign in SQL for the name of an operator. -/
def signOf (name : String) : Except Cause String :=
  let word := keywordOf name
  if word = ">=" then .ok ">="
  else if word = "<=" then .ok "<="
  else if word = ">" then .ok ">"
  else if word = "<" then .ok "<"
  else if word = "before" then .ok "<"
  else if word = "after" then .ok ">="
  else if word = "is" then .ok "="
  else if word = "is not" then .ok "<>"
  else .error (.unsupportedOperator name)

/-- The sign of an operator in SQL. -/
def sign (op : Operator) : Except Cause String :=
  signOf op.name

end Operator

/-- A value type, by its spelling. -/
def ValueType.decode {V E : Type} (dialect : Record.Dialect V E) : V → Except E ValueType :=
  Record.decodeName dialect (ValueType.all.map ValueType.token) ValueType.ofToken?

/-- A value type as JSON. -/
def ValueType.toJson (t : ValueType) : Json :=
  .string t.token

namespace Operator

/-- The fields of an operator. -/
def fields {V E : Type} (dialect : Record.Dialect V E) : List (Record.Field V E Operator) := [
  { name := "name", required := true
    decode := fun x op => do return { op with name := ← Record.decodeString dialect x } },
  { name := "value_type", required := true
    decode := fun x op => do return { op with type := ← ValueType.decode dialect x } },
  { name := "negative", required := false
    decode := fun x op => do return { op with negative := ← Record.decodeBool dialect x } },
  { name := "coalesced_value_type", required := false
    decode := fun x op => do
      let type := ValueType.decode dialect
      return { op with coalesced := ← Record.decodeOption dialect type x } },
  { name := "summary_template", required := false
    decode := fun x op => do
      let text := Record.decodeString dialect
      return { op with template := ← Record.decodeOption dialect text x } }]

/-- An operator as it is read. -/
def decode {V E : Type} (dialect : Record.Dialect V E) : V → Except E Operator :=
  Record.decode dialect "Operator" false (fields dialect) ⟨"", .nullable, false, none, none⟩

/-- An operator as it is written; absent fields are left out. -/
def toJson (op : Operator) : Json :=
  .object <|
    [("name", .string op.name), ("value_type", op.type.toJson), ("negative", .bool op.negative)] ++
    (op.coalesced.map fun t => ("coalesced_value_type", t.toJson)).toList ++
    (op.template.map fun s => ("summary_template", Json.string s)).toList

end Operator

end FilterSql
