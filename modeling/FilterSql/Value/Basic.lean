import FilterSql.Calendar.RelativeDate
import FilterSql.Json.Outline

/-!
# Values

A clause compares a column with a value: a boolean, a number, a text, a collection of identifiers, a
choice, a relative date or a point in time.

## Main definitions

* `FilterSql.ChoiceId`: the identifier of a chosen element.
* `FilterSql.Value`: a value.
* `FilterSql.Value.outline`: a value as messages show it.
-/

namespace FilterSql

open Text

/-- The identifier of a chosen element, which keeps its type. -/
inductive ChoiceId where
  /-- A whole number. -/
  | int (n : Int)
  /-- A text. -/
  | text (s : String)
deriving DecidableEq, Repr

namespace ChoiceId

/-- The identifier without any marks around it. -/
def display : ChoiceId → String
  | int n => integer n
  | text s => s

/-- The identifier as messages show it. -/
def outline : ChoiceId → String
  | int n => "Int(" ++ integer n ++ ")"
  | text s => "Text(" ++ quoted s ++ ")"

end ChoiceId

/-- A value that a column is compared with. -/
inductive Value where
  /-- A boolean. -/
  | bool (b : Bool)
  /-- A whole number. -/
  | int (n : Int)
  /-- A floating point number. -/
  | float (x : Float)
  /-- A text. -/
  | text (s : String)
  /-- The identifiers of chosen elements. -/
  | collection (ids : List ChoiceId)
  /-- The members of a single choice. -/
  | choice (members : List (String × Json))
  /-- A relative date. -/
  | relativeDate (d : RelativeDate)
  /-- A point in time. -/
  | timestamp (t : Timestamp)

namespace Value

/-- The truth of a boolean value. -/
def truth? : Value → Option Bool
  | bool b => some b
  | _ => none

/-- A value as messages show it. -/
def outline : Value → String
  | bool b => if b then "Bool(true)" else "Bool(false)"
  | int n => "Int(" ++ integer n ++ ")"
  | float x => "Float(" ++ Decimal.Style.typed.write x ++ ")"
  | text s => "Text(" ++ quoted s ++ ")"
  | collection ids => "Collection([" ++ ", ".intercalate (ids.map ChoiceId.outline) ++ "])"
  | choice members => "Choice(" ++ Json.outlineObject members ++ ")"
  | relativeDate d => "RelativeDate(" ++ d.name ++ ")"
  | timestamp t => "Timestamp(" ++ t.text ++ ")"

end Value

end FilterSql
