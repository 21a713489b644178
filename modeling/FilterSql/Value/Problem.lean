import FilterSql.Json.Error
import FilterSql.Value.Basic

/-!
# Problems with values

Why a raw value cannot be read as a value of some type, why a value has no canonical text, or why a
condition cannot be built from it.

## Main definitions

* `FilterSql.Value.Problem`, `FilterSql.Value.Problem.message`: the problems and their wording.
-/

namespace FilterSql.Value

/-- What is wrong with a value. -/
inductive Problem where
  /-- A condition was built from a value of another kind. -/
  | unexpected (v : Value)
  /-- A canonical text was asked of a value of another kind. -/
  | notWritable (v : Value)
  /-- A text was expected. -/
  | notText (raw : Json)
  /-- A collection is no list. -/
  | notList
  /-- A text holds no JSON. -/
  | malformed (e : Json.Error)
  /-- The identifier of a choice is a number, but not a whole one. -/
  | fractionalId
  /-- A choice of a collection has no identifier. -/
  | missingId
  /-- An element of a collection is neither a choice nor a text. -/
  | notChoice
  /-- A single choice is no object. -/
  | notObject
  /-- A single choice lacks its identifier or its name. -/
  | missingKeys
  /-- A text is a number, but not a finite one. -/
  | notFinite (s : String)
  /-- A text is no number. -/
  | notNumeral (s : String)
  /-- A number was expected. -/
  | notNumber (raw : Json)
  /-- A relative date was expected. -/
  | notRelativeDate (raw : Json)
  /-- A point in time was expected. -/
  | notTimestamp (raw : Json)
  /-- A boolean was expected. -/
  | notBool (raw : Json)

/-- The wording of a problem. -/
def Problem.message : Problem → String
  | unexpected v => "unexpected value " ++ v.outline
  | notWritable v => "cannot stringify " ++ v.outline
  | notText raw => "expected text, received " ++ raw.text
  | notList => "collection values must be lists"
  | malformed e => e.message
  | fractionalId => "numeric choice ids must be integers"
  | missingId => "choices in a collection must have an 'id'"
  | notChoice => "elements of collection must be choices (or strings, for backwards compat)"
  | notObject => "single choice values must be an object"
  | missingKeys => "Choice must have keys for 'name' and 'id'"
  | notFinite s => "not a finite number: '" ++ s ++ "'"
  | notNumeral s => "could not convert '" ++ s ++ "' to a number: invalid float literal"
  | notNumber raw => "expected a number, received " ++ raw.text
  | notRelativeDate raw => "Invalid relative date value: " ++ raw.text
  | notTimestamp raw => "invalid literal for date range: " ++ raw.text
  | notBool raw => "expected boolean or string. received " ++ raw.text

end FilterSql.Value
