import FilterSql.Json.Printer
import FilterSql.Text.Quoted

/-!
# Outlines of JSON values

Messages show a JSON value with the class of each of its parts, such as
`Array [Number(1), String("a")]`.

## Main definitions

* `FilterSql.Json.outline`: the outline of a value.
* `FilterSql.Json.outlineObject`: the outline of the members of an object between braces.
-/

namespace FilterSql.Json

open Text

mutual

/-- The outline of a value. -/
def outline : Json → String
  | null => "Null"
  | bool b => if b then "Bool(true)" else "Bool(false)"
  | number n => "Number(" ++ String.ofList (writeNumber n) ++ ")"
  | string s => "String(" ++ quoted s ++ ")"
  | array items => "Array [" ++ ", ".intercalate (outlineItems items) ++ "]"
  | object members => "Object \x7b" ++ ", ".intercalate (outlineMembers members) ++ "\x7d"
termination_by structural x => x

/-- The outlines of the values of a list. -/
def outlineItems : List Json → List String
  | [] => []
  | x :: xs => outline x :: outlineItems xs
termination_by structural xs => xs

/-- The outlines of the members of an object. -/
def outlineMembers : List (String × Json) → List String
  | [] => []
  | (k, x) :: xs => (quoted k ++ ": " ++ outline x) :: outlineMembers xs
termination_by structural xs => xs

end

/-- The outline of the members of an object between braces. -/
def outlineObject (members : List (String × Json)) : String :=
  "\x7b" ++ ", ".intercalate (outlineMembers members) ++ "\x7d"

end FilterSql.Json
