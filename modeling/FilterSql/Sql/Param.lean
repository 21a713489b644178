import FilterSql.Calendar.Timestamp
import FilterSql.Json.Printer

/-!
# Parameters

A value that is bound to a query instead of being written into it. Some kinds of parameters carry a
cast that is written after their placeholder, since the database could not tell the type otherwise.

## Main definitions

* `FilterSql.Param`: a parameter.
* `FilterSql.Param.cast?`: the cast after its placeholder.
* `FilterSql.Param.display`: the parameter as an SQL literal, for people to read.
* `FilterSql.Param.same`: equality of parameters.
-/

namespace FilterSql

open Text

/-- A value that is bound to a query. -/
inductive Param where
  /-- A null whose type follows from its place. -/
  | null
  /-- A null of a given type. -/
  | typedNull (type : String)
  /-- A boolean. -/
  | bool (b : Bool)
  /-- A whole number. -/
  | int (n : Int)
  /-- A floating point number. -/
  | float (x : Float)
  /-- A text. -/
  | text (s : String)
  /-- A point in time. -/
  | timestamp (t : Timestamp)
  /-- A JSON document. -/
  | json (x : Json)
  /-- A whole list as one parameter. -/
  | array (items : List Param)

namespace Param

instance : Inhabited Param := ⟨null⟩

/-- The cast that is written after the placeholder of a parameter. -/
def cast? : Param → Option String
  | timestamp _ => some "timestamp"
  | json _ => some "jsonb"
  | typedNull type => some type
  | _ => none

/-- A text with its single quotes doubled. -/
def doubleQuotes (s : String) : String :=
  String.ofList (s.toList.flatMap fun c => if c = '\'' then ['\'', '\''] else [c])

mutual

/-- The parameter as an SQL literal, for people to read. -/
def display : Param → String
  | null => "NULL"
  | typedNull type => "NULL::" ++ type
  | bool b => if b then "true" else "false"
  | int n => integer n
  | float x => Decimal.Style.plain.write x
  | text s => "'" ++ doubleQuotes s ++ "'"
  | timestamp t => "'" ++ t.text ++ "'"
  | json x => "'" ++ x.text ++ "'"
  | array items => "ARRAY[" ++ ", ".intercalate (displayItems items) ++ "]"
termination_by structural p => p

/-- The parameters of a list as SQL literals. -/
def displayItems : List Param → List String
  | [] => []
  | p :: ps => display p :: displayItems ps
termination_by structural ps => ps

end

mutual

/-- Equality of parameters, by kind and value; no number equals what is not a number. -/
def same : Param → Param → Bool
  | null, null => true
  | typedNull s, typedNull t => s == t
  | bool a, bool b => a == b
  | int m, int n => m == n
  | float x, float y => x == y
  | text s, text t => s == t
  | timestamp s, timestamp t => s == t
  | json x, json y => x == y
  | array ps, array qs => sameItems ps qs
  | _, _ => false
termination_by structural p => p

/-- Equality of lists of parameters. -/
def sameItems : List Param → List Param → Bool
  | [], [] => true
  | p :: ps, q :: qs => same p q && sameItems ps qs
  | _, _ => false
termination_by structural ps => ps

end

instance : BEq Param := ⟨same⟩

end Param

end FilterSql
