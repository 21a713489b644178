import FilterSql.Json.Error
import FilterSql.Json.Outline

/-!
# Records in JSON

Records are read from JSON values. A name out of a list is a text, or the single key of an object
whose member is `null`. Problems with values are reported without a place.

## Main definitions

* `FilterSql.Json.describe`: how messages name a value.
* `FilterSql.Record.Dialect.json`: the dialect of JSON values.
-/

namespace FilterSql

namespace Json

open Text

/-- How messages name a value. -/
def describe : Json → String
  | null => "null"
  | bool b => "boolean \x60" ++ text (bool b) ++ "\x60"
  | number (.int n _) => "integer \x60" ++ integer n ++ "\x60"
  | number (.float x) => "floating point \x60" ++ text (number (.float x)) ++ "\x60"
  | string s => "string " ++ quoted s
  | array _ => "sequence"
  | object _ => "map"

/-- The problem that a value has the wrong type. -/
def wrongType (x : Json) (expected : String) : Problem :=
  .misfit (.invalidType x.describe expected)

/-- What a value is. -/
def form : Json → Record.Form Json
  | null => .absent
  | bool b => .bool b
  | number _ => .other
  | string s => .text s
  | array items => .list items
  | object members => .record members

/-- The name that a value gives. -/
def naming : Json → Except Problem (Record.Naming Problem)
  | string name => .ok ⟨name, .misfit, .ok ()⟩
  | object [(name, null)] => .ok ⟨name, .misfit, .ok ()⟩
  | object [(name, content)] => .ok ⟨name, .misfit, .error (wrongType content "unit")⟩
  | object _ => .error (.misfit (.invalidValue "map" "map with a single key"))
  | x => .error (wrongType x "string or map")

end Json

/-- The dialect of JSON values. -/
def Record.Dialect.json : Record.Dialect Json Json.Problem :=
  { form := Json.form
    describe := Json.describe
    blame := fun _ m => .misfit m
    blameKey := fun _ m => .misfit m
    naming := Json.naming
    allowsSurplus := false }

end FilterSql
