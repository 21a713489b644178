import FilterSql.Json.Number
import FilterSql.Value.Reader

/-!
# Canonical texts of values

Every value that fits its type has a canonical text, which is read back as the same value unless a
floating point number loses digits.

## Main definitions

* `FilterSql.Value.canonicalText`: the canonical text of a value of a type.
* `FilterSql.Value.canonicalTextOf`: the canonical text of a raw value.
-/

namespace FilterSql

/-- The identifier of a chosen element as JSON. -/
def ChoiceId.toJson : ChoiceId → Json
  | int n => .number (.ofInt n)
  | text s => .string s

namespace Value

/-- The places after the point of a number in a canonical text. -/
def canonicalPlaces : Nat := 10

/-- The canonical text of a value of a type. -/
def canonicalText (type : ValueType) (value : Value) : Except Cause String :=
  let number : Except Cause String :=
    match value with
    | int n => .ok (Text.integer n)
    | float x => .ok (Decimal.writeFixed canonicalPlaces x)
    | _ => .error (invalid type (.notWritable value))
  let boolean : Except Cause String :=
    match value with
    | bool b => .ok (Json.bool b).text
    | _ => .error (invalid type (.notWritable value))
  match type with
  | .string =>
    match value with
    | text s => .ok s
    | _ => .error (invalid type (.notWritable value))
  | .collection =>
    match value with
    | collection ids => .ok (Json.array (ids.map ChoiceId.toJson)).text
    | _ => .error (invalid type (.notWritable value))
  | .numeric => number
  | .stringLength => number
  | .relativeDate =>
    match value with
    | relativeDate d => .ok d.token
    | _ => .error (invalid type (.notWritable value))
  | .absoluteDate =>
    match value with
    | timestamp t => .ok t.text
    | _ => .error (invalid type (.notWritable value))
  | .bool => boolean
  | .nullable => boolean
  | .singleChoice =>
    match value with
    | choice members => .ok (Json.object members).text
    | _ => .error (invalid type (.notWritable value))

/-- The canonical text of the value that a raw value stands for. -/
def canonicalTextOf (type : ValueType) (raw : Json) : Except Cause String := do
  canonicalText type (← read type raw)

end Value

end FilterSql
