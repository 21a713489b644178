import FilterSql.Calendar.Reader
import FilterSql.Decimal.Reader
import FilterSql.Error
import FilterSql.Json.Reader

/-!
# Reading values

A raw value, often a text as it comes from a form, is read as a value of a type. Each type also
takes its own JSON form: a number for a numeric value, a list for a collection, an object for a
choice.

## Main definitions

* `FilterSql.Value.read`: the value of a type that a raw value stands for.
-/

namespace FilterSql.Value

open Text

/-- The cause of a problem with a value of a type. -/
def invalid (type : ValueType) (problem : Problem) : Cause :=
  .invalidValue type problem

/-- A text: a text itself, or the text of a number or a boolean. -/
def readText : Json → Except Cause Value
  | .string s => .ok (text s)
  | .number n => .ok (text (Json.number n).text)
  | .bool b => .ok (text (Json.bool b).text)
  | raw => .error (invalid .string (.notText raw))

/-- The identifier of an element of a collection: the element itself if it is a text, or the
identifier of a choice. -/
def readChoiceId : Json → Except Problem ChoiceId
  | .string s => .ok (.text s)
  | .object members =>
    match Json.find? "id" members with
    | some (.string s) => .ok (.text s)
    | some (.number n) =>
      match n.toInt64? with
      | some i => .ok (.int i)
      | none => .error .fractionalId
    | _ => .error .missingId
  | _ => .error .notChoice

/-- The identifiers of a list of elements. -/
def readChoiceIds (items : List Json) : Except Problem (List ChoiceId) :=
  items.mapM readChoiceId

/-- A collection: a list of elements, or its JSON text. -/
def readCollection (raw : Json) : Except Cause Value :=
  let ids : Except Problem (List ChoiceId) :=
    match raw with
    | .array items => readChoiceIds items
    | .string s =>
      match Json.read s with
      | .ok (.array items) => readChoiceIds items
      | .ok _ => .error .notList
      | .error e => .error (.malformed e)
    | _ => .error .notList
  match ids with
  | .ok ids => .ok (collection ids)
  | .error problem => .error (invalid .collection problem)

/-- The members of a choice, which has an identifier and a name. -/
def readChoiceMembers (members : List (String × Json)) : Except Problem Value :=
  if (Json.find? "id" members).isSome && (Json.find? "name" members).isSome then
    .ok (choice members)
  else .error .missingKeys

/-- A single choice: an object, or its JSON text. -/
def readChoice (raw : Json) : Except Cause Value :=
  let value : Except Problem Value :=
    match raw with
    | .object members => readChoiceMembers members
    | .string s =>
      match Json.read s with
      | .ok (.object members) => readChoiceMembers members
      | .ok _ => .error .notObject
      | .error e => .error (.malformed e)
    | _ => .error .notObject
  value.mapError (invalid .singleChoice)

/-- The number that a text without surrounding blanks writes; the empty text is zero, and a text
that writes a whole number of 64 bits is read as such. -/
def readNumeral (s : List Char) : Except Problem Value :=
  if s.isEmpty then .ok (int 0)
  else
    match Decimal.readInt? s with
    | some n => .ok (int n)
    | none =>
      match Decimal.readFloat? s with
      | some x => if x.isFinite then .ok (float x) else .error (.notFinite (String.ofList s))
      | none => .error (.notNumeral (String.ofList s))

/-- A number: a number itself, or the text of one. -/
def readNumeric : Json → Except Cause Value
  | .number n =>
    match n.toInt64? with
    | some i => .ok (int i)
    | none => .ok (float n.toFloat)
  | .string s => (readNumeral (trimChars s.toList)).mapError (invalid .numeric)
  | raw => .error (invalid .numeric (.notNumber raw))

/-- A relative date, by its word. -/
def readRelativeDate (raw : Json) : Except Cause Value :=
  match raw.string?.bind RelativeDate.ofText? with
  | some d => .ok (relativeDate d)
  | none => .error (invalid .relativeDate (.notRelativeDate raw))

/-- A point in time, by its text. -/
def readTimestamp (raw : Json) : Except Cause Value :=
  match raw.string?.bind Timestamp.ofText? with
  | some t => .ok (timestamp t)
  | none => .error (invalid .absoluteDate (.notTimestamp raw))

/-- A boolean: a boolean itself, or the word for one in any case. -/
def readBool (type : ValueType) (raw : Json) : Except Cause Value :=
  match raw with
  | .bool b => .ok (bool b)
  | .string s =>
    if sameIgnoringCase s "true" then .ok (bool true)
    else if sameIgnoringCase s "false" then .ok (bool false)
    else .error (invalid type (.notBool raw))
  | _ => .error (invalid type (.notBool raw))

/-- The value of a type that a raw value stands for. A number of words is read as a number. -/
def read (type : ValueType) (raw : Json) : Except Cause Value :=
  match type with
  | .string => readText raw
  | .collection => readCollection raw
  | .numeric => readNumeric raw
  | .stringLength => readNumeric raw
  | .relativeDate => readRelativeDate raw
  | .absoluteDate => readTimestamp raw
  | .bool => readBool .bool raw
  | .nullable => readBool .nullable raw
  | .singleChoice => readChoice raw

end FilterSql.Value
