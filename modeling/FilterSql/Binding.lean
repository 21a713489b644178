import FilterSql.Error
import FilterSql.Sql.Fragment

/-!
# Binding parameters

Before a query is sent its parameters are bound. Single parameters of every kind can be bound. An
array can be bound if it is empty, or if its elements are of one and the same kind among booleans,
whole numbers, floating point numbers, texts and points in time.

## Main definitions

* `FilterSql.Param.Kind`: the kinds of which there are arrays.
* `FilterSql.Binding.check`: whether parameters can be bound.
-/

namespace FilterSql

/-- The kinds of parameters of which there are arrays. -/
inductive Param.Kind where
  | bool
  | int
  | float
  | text
  | timestamp
deriving DecidableEq, Repr

/-- The kind of a parameter, if there are arrays of it. -/
def Param.kind? : Param → Option Param.Kind
  | .bool _ => some .bool
  | .int _ => some .int
  | .float _ => some .float
  | .text _ => some .text
  | .timestamp _ => some .timestamp
  | _ => none

namespace Binding

/-- Whether the elements of an array can be bound. -/
def checkArray : List Param → Except BindProblem Unit
  | [] => .ok ()
  | p :: ps =>
    match p.kind? with
    | none => .error (.elementKind p)
    | some kind =>
      match ps.find? fun q => q.kind? ≠ some kind with
      | some q => .error (.mixedElement q)
      | none => .ok ()

/-- Whether a parameter can be bound. -/
def checkParam : Param → Except BindProblem Unit
  | .array items => checkArray items
  | _ => .ok ()

/-- Whether parameters can be bound; the first one that cannot gives the error. -/
def check (params : List Param) : Except Cause Unit :=
  (params.forM checkParam).mapError .unsupportedParam

end Binding

end FilterSql
