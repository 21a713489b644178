/-!
# Value types

The type of the values that a data source can be compared with. A data source lists the value types
it has, and an operator belongs to one of them.

## Main definitions

* `FilterSql.ValueType`: the nine value types.
* `FilterSql.ValueType.token`: the spelling in files and messages.
-/

namespace FilterSql

/-- The type of the values that a data source can be compared with. -/
inductive ValueType where
  /-- Whether a column is set at all. -/
  | nullable
  /-- A boolean column. -/
  | bool
  /-- A whole or floating point number. -/
  | numeric
  /-- A free text. -/
  | string
  /-- The number of words of a text. -/
  | stringLength
  /-- One of a set of identifiers. -/
  | collection
  /-- A single choice with an identifier and a name. -/
  | singleChoice
  /-- A word for a range of time. -/
  | relativeDate
  /-- A point in time. -/
  | absoluteDate
deriving DecidableEq, Repr

namespace ValueType

/-- Every value type. -/
def all : List ValueType :=
  [nullable, bool, numeric, string, stringLength, collection, singleChoice, relativeDate,
    absoluteDate]

/-- No value type is left out. -/
theorem mem_all (t : ValueType) : t ∈ all := by
  cases t <;> decide

/-- The spelling of a value type in files and messages. -/
def token : ValueType → String
  | nullable => "nullable"
  | bool => "bool"
  | numeric => "numeric"
  | string => "string"
  | stringLength => "string_length"
  | collection => "collection"
  | singleChoice => "single_choice"
  | relativeDate => "relative_date"
  | absoluteDate => "absolute_date"

/-- The name of a value type in the listing of overrides. -/
def name : ValueType → String
  | nullable => "Nullable"
  | bool => "Bool"
  | numeric => "Numeric"
  | string => "String"
  | stringLength => "StringLength"
  | collection => "Collection"
  | singleChoice => "SingleChoice"
  | relativeDate => "RelativeDate"
  | absoluteDate => "AbsoluteDate"

/-- The value type with a spelling. -/
def ofToken? (token : String) : Option ValueType :=
  all.find? fun t => t.token == token

end ValueType

end FilterSql
