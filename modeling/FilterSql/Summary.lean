import FilterSql.Decimal.Grouping
import FilterSql.Resolved
import FilterSql.Text.Replace

/-!
# Summaries

A resolved clause is described in words, such as `Number Scoops >= 1,000`. The description has a
slot for the display name of the data source and one for the value, which is filled last.

## Main definitions

* `FilterSql.ResolvedClause.summary`: a clause in words.
-/

namespace FilterSql

open Text

namespace Summary

/-- The slot for the display name of the data source. -/
def sourceSlot : String := "\x7bdata_source\x7d"

/-- The slot for the value. -/
def valueSlot : String := "\x7bvalue\x7d"

/-- A description by the words between the data source and the value. -/
def templateOf (words : String) : String :=
  sourceSlot ++ " " ++ words ++ " " ++ valueSlot

/-- Identifiers one after another. -/
def listIds (ids : List ChoiceId) : String :=
  ", ".intercalate (ids.map ChoiceId.display)

/-- The name of a choice, or all of it if it has none. -/
def nameOfChoice (members : List (String × Json)) : String :=
  match Json.find? "name" members with
  | some (.string name) => name
  | some other => other.text
  | none => (Json.object members).text

/-- A number with thousands separators. -/
def number (s : String) : String :=
  String.ofList (Decimal.groupThousands s.toList)

/-- A value in words, for an operator that reads its values under a type. -/
def value (readType : ValueType) : Value → String
  | .collection ids =>
    if readType = .collection ∧ ids.isEmpty then "(none)" else listIds ids
  | .relativeDate d => String.ofList (d.token.toList.map fun c => if c = '_' then ' ' else c)
  | .int n => number (integer n)
  | .float x => number (Decimal.Style.plain.write x)
  | .text s => s
  | .bool b => (Json.bool b).text
  | .timestamp t => t.textToSecond
  | .choice members => nameOfChoice members

/-- The description of a clause before its slots are filled. A single chosen element is described as
what the data source is. -/
def template (op : Operator) (v : Value) : String :=
  match op.template with
  | some template => template
  | none =>
    match v, op.readType with
    | .collection [_], .collection => templateOf (if op.negative then "is not" else "is")
    | _, _ => templateOf op.name

end Summary

/-- A clause in words. -/
def ResolvedClause.summary (c : ResolvedClause) : String :=
  replace Summary.valueSlot (Summary.value c.operator.readType c.value)
    (replace Summary.sourceSlot c.source.displayName (Summary.template c.operator c.value))

end FilterSql
