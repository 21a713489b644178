import FilterSql.Filter.Basic

/-!
# Nodes in JSON

A node is read from the JSON value that stands for it, with the members of its objects as written. A
value that can be read as a group is a group; otherwise it is a clause, if it can be read as one.

* A group is an object with the member `filter_clauses`, a list of nodes, and the member
  `logical_op`, a text that may be missing or `null`; or a list of `logical_op` and
  `filter_clauses`.
* A clause is an object with the members `data_source` and `operator`, which are texts, and the
  member `value`, which is `null` if it is missing; or a list of these with or without the value.

Other members are passed over; a member of these names must not be repeated.

## Main definitions

* `FilterSql.Node.ofJson?`: the node that a value stands for.
-/

namespace FilterSql

namespace Json

/-- The values of the members with a key. -/
def valuesOf (key : String) (members : List (String × Json)) : List Json :=
  (members.filter (·.1 == key)).map (·.2)

/-- A text that may be missing or `null`: nothing if the value is no text. -/
def optionalString? : List Json → Option (Option String)
  | [] => some none
  | [null] => some none
  | [string s] => some (some s)
  | _ => none

end Json

namespace Clause

/-- A clause from its parts. -/
def ofParts? : Json → Json → Json → Option Clause
  | .string source, .string operator, value => some ⟨source, operator, value.canonical⟩
  | _, _, _ => none

/-- The clause that a value stands for. -/
def ofJson? : Json → Option Clause
  | .object members =>
    match members |> Json.valuesOf "data_source", members |> Json.valuesOf "operator",
      members |> Json.valuesOf "value" with
    | [source], [operator], [] => ofParts? source operator .null
    | [source], [operator], [value] => ofParts? source operator value
    | _, _, _ => none
  | .array [source, operator] => ofParts? source operator .null
  | .array [source, operator, value] => ofParts? source operator value
  | _ => none

end Clause

namespace Node

mutual

/-- The node that a value stands for: a group if it can be read as one, or else a clause. -/
def ofJson? : Json → Option Node
  | .object members =>
    match Json.optionalString? (Json.valuesOf "logical_op" members), childrenOf? members with
    | some connective, [some children] => some (.group connective children)
    | _, _ => (Clause.ofJson? (.object members)).map .clause
  | .array items =>
    match groupOfItems? items with
    | some n => some n
    | none => (Clause.ofJson? (.array items)).map .clause
  | _ => none
termination_by structural x => x

/-- The group that a list of a connective and of children stands for. -/
def groupOfItems? : List Json → Option Node
  | [] => none
  | connective :: rest =>
    match Json.optionalString? [connective], onlyChildren? rest with
    | some connective, some children => some (.group connective children)
    | _, _ => none
termination_by structural xs => xs

/-- The children that a list holds as its only element. -/
def onlyChildren? : List Json → Option (List Node)
  | [] => none
  | x :: rest => if rest.isEmpty then ofList? x else none
termination_by structural xs => xs

/-- The nodes that a list of nodes stands for. -/
def ofList? : Json → Option (List Node)
  | .array items => ofItems? items
  | _ => none
termination_by structural x => x

/-- The nodes that the elements of a list stand for. -/
def ofItems? : List Json → Option (List Node)
  | [] => some []
  | x :: xs =>
    match ofJson? x, ofItems? xs with
    | some n, some ns => some (n :: ns)
    | _, _ => none
termination_by structural xs => xs

/-- The children that each member `filter_clauses` of an object gives. -/
def childrenOf? : List (String × Json) → List (Option (List Node))
  | [] => []
  | (key, x) :: rest =>
    if key == "filter_clauses" then ofList? x :: childrenOf? rest else childrenOf? rest
termination_by structural ms => ms

end

end Node

end FilterSql
