import FilterSql.Filter.Path
import FilterSql.Sql.Param
import FilterSql.Value.Problem
import FilterSql.ValueType

/-!
# Errors

What can go wrong between a filter and its query. An error names its cause and, once it is known
which node of the filter it comes from, the place of that node. Among the causes is one after which
nothing is answered at all: a date beyond the calendar.

## Main definitions

* `FilterSql.BindProblem`: why a parameter cannot be bound.
* `FilterSql.Cause`, `FilterSql.Cause.message`: what went wrong.
* `FilterSql.Error`, `FilterSql.Error.message`: a cause with its place.
* `FilterSql.Error.at`: an error with a place, unless it has one already.
-/

namespace FilterSql

open Text

/-- Why a parameter cannot be bound. -/
inductive BindProblem where
  /-- An element of an array differs in kind from the first one. -/
  | mixedElement (p : Param)
  /-- The first element of an array has a kind of which there are no arrays. -/
  | elementKind (p : Param)

/-- The wording of the reason. -/
def BindProblem.message : BindProblem → String
  | mixedElement p => "mixed array element " ++ p.display
  | elementKind p => "array of " ++ p.display

/-- What went wrong. -/
inductive Cause where
  /-- No data source has this display name. -/
  | unknownDataSource (name : String)
  /-- More than one data source has this display name. -/
  | ambiguousDataSource (name : String)
  /-- No operator of this name belongs to the value types of the data source. -/
  | unknownOperator (name : String)
  /-- An operator has no sign in SQL. -/
  | unsupportedOperator (name : String)
  /-- A value is not one of its type. -/
  | invalidValue (type : ValueType) (problem : Value.Problem)
  /-- A group names no connective. -/
  | invalidConnective (name : String)
  /-- There is no condition for operators of this value type. -/
  | unknownValueType (type : ValueType)
  /-- An override is registered already. -/
  | conflictingOverride (source : String) (type : ValueType)
  /-- An operator of this name and value type exists already. -/
  | duplicateOperator (name : String) (type : ValueType)
  /-- A table has a name that is no identifier. -/
  | invalidIdentifier (name : String)
  /-- A template has not as many placeholders as there are parameters. -/
  | parameterCount (placeholders params : Nat)
  /-- A parameter cannot be bound. -/
  | unsupportedParam (problem : BindProblem)
  /-- A JSON document cannot be read. -/
  | json (e : Json.Error)
  /-- The range of a relative date leaves the dates that can be written. This is no error that is
  reported: the whole computation is given up where it occurs. -/
  | dateOverflow

namespace Cause

/-- The wording of a cause. -/
def message : Cause → String
  | unknownDataSource name => "Unknown data source '" ++ name ++ "'"
  | ambiguousDataSource name => "Ambiguous data source '" ++ name ++ "'"
  | unknownOperator name => "Unknown operator '" ++ name ++ "'"
  | unsupportedOperator name => "No SQL binary operator for operator '" ++ name ++ "'"
  | invalidValue type problem => "Invalid " ++ type.token ++ " value: " ++ problem.message
  | invalidConnective name => "Logical op must be one of &, |. Given: '" ++ name ++ "'"
  | unknownValueType type => "Unknown value_type '" ++ type.token ++ "'"
  | conflictingOverride source type =>
    "Conflicting handlers registered for (" ++ source ++ ", " ++ type.token ++ ")"
  | duplicateOperator name type =>
    "Duplicate operator '" ++ name ++ "' for value_type " ++ type.token
  | invalidIdentifier name => "Invalid identifier: '" ++ name ++ "'"
  | parameterCount placeholders params =>
    "Fragment has " ++ integer placeholders ++ " placeholder(s) but " ++ integer params ++
      " param(s)"
  | unsupportedParam problem => "Cannot bind param: " ++ problem.message
  | json e => "JSON error: " ++ e.message
  | dateOverflow => "Date out of range"

end Cause

/-- A cause, with the place of the node it comes from once that is known. -/
structure Error where
  /-- What went wrong. -/
  cause : Cause
  /-- The place of the node. -/
  path : Option Path := none

namespace Error

instance : Coe Cause Error := ⟨fun cause => ⟨cause, none⟩⟩

/-- The error with a place. The place that an error has already is kept, since it lies further
inside. -/
def «at» (e : Error) (p : Path) : Error :=
  ⟨e.cause, some (e.path.getD p)⟩

/-- The wording of an error. -/
def message (e : Error) : String :=
  match e.path with
  | none => e.cause.message
  | some p => p.text ++ ": " ++ e.cause.message

@[simp] theorem cause_at (e : Error) (p : Path) : (e.at p).cause = e.cause := rfl

theorem path_at (e : Error) (p : Path) : (e.at p).path = some (e.path.getD p) := rfl

end Error

end FilterSql
