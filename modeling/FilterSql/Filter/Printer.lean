import FilterSql.Filter.Basic
import FilterSql.Json.Printer

/-!
# Writing filters

A filter is written as JSON. The members of groups and clauses stand in a fixed order; a group
without the name of a connective leaves that member out, and a clause always has its value.

## Main definitions

* `FilterSql.Filter.toJson`: a filter as JSON.
* `FilterSql.Filter.text`: a filter as JSON text.
-/

namespace FilterSql

/-- A clause as JSON. -/
def Clause.toJson (c : Clause) : Json :=
  .object [("data_source", .string c.source), ("operator", .string c.operator),
    ("value", c.value)]

namespace Node

/-- The members of a group as JSON. -/
def groupMembers (connective : Option String) (children : List Json) : List (String × Json) :=
  (connective.map fun name => ("logical_op", Json.string name)).toList ++
    [("filter_clauses", .array children)]

mutual

/-- A node as JSON. -/
def toJson : Node → Json
  | .clause c => c.toJson
  | .group connective children => .object (groupMembers connective (toJsonList children))
termination_by structural n => n

/-- The nodes of a list as JSON. -/
def toJsonList : List Node → List Json
  | [] => []
  | n :: ns => toJson n :: toJsonList ns
termination_by structural ns => ns

end

end Node

namespace Filter

/-- A filter as JSON. -/
def toJson (f : Filter) : Json :=
  .object (Node.groupMembers f.connective (Node.toJsonList f.children))

/-- A filter as JSON text. -/
def text (f : Filter) : String :=
  f.toJson.text

end Filter

end FilterSql
