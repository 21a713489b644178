import FilterSql.Record
import FilterSql.Text.Excerpt

/-!
# Faults in JSON

What can be wrong with a JSON text or with a value that should have a given form, and where. A place
in a text is a line and a column, the column counted in bytes.

## Main definitions

* `FilterSql.Json.Problem`, `FilterSql.Json.Problem.message`: what is wrong.
* `FilterSql.Json.Position`, `FilterSql.Json.positionAt`: a place in a text.
* `FilterSql.Json.Error`, `FilterSql.Json.Error.message`: a problem with its place, if it has one.
* `FilterSql.Json.Fault`: a problem met while reading, with the text not yet read.
-/

namespace FilterSql.Json

open Text

/-- What is wrong with a text or a value. -/
inductive Problem where
  /-- The text ends inside a list. -/
  | endInList
  /-- The text ends inside an object. -/
  | endInObject
  /-- The text ends inside a quoted text. -/
  | endInString
  /-- The text ends where a value stands. -/
  | endInValue
  /-- A colon is missing after a key. -/
  | expectedColon
  /-- A comma or the end of a list is missing. -/
  | expectedListEnd
  /-- A comma or the end of an object is missing. -/
  | expectedObjectEnd
  /-- A word is neither `null`, `true` nor `false`. -/
  | expectedWord
  /-- No value starts here. -/
  | expectedValue
  /-- A backslash is followed by no escape. -/
  | invalidEscape
  /-- A number is not well formed. -/
  | invalidNumber
  /-- A number is too large. -/
  | numberOutOfRange
  /-- A control character stands in a quoted text. -/
  | controlCharacter
  /-- A key is not quoted. -/
  | keyNotString
  /-- Half of a surrogate pair stands alone. -/
  | loneSurrogate
  /-- A comma is followed by the end. -/
  | trailingComma
  /-- Something follows the value. -/
  | trailingCharacters
  /-- The second half of a surrogate pair is missing. -/
  | endOfEscape
  /-- Lists and objects are nested too deeply. -/
  | tooDeep
  /-- A value does not have the form that it should have. -/
  | misfit (m : Record.Misfit)
  /-- A node of a filter is neither a group nor a clause. -/
  | noNode
deriving DecidableEq, Repr

/-- The wording of a problem. -/
def Problem.message : Problem → String
  | endInList => "EOF while parsing a list"
  | endInObject => "EOF while parsing an object"
  | endInString => "EOF while parsing a string"
  | endInValue => "EOF while parsing a value"
  | expectedColon => "expected \x60:\x60"
  | expectedListEnd => "expected \x60,\x60 or \x60]\x60"
  | expectedObjectEnd => "expected \x60,\x60 or \x60\x7d\x60"
  | expectedWord => "expected ident"
  | expectedValue => "expected value"
  | invalidEscape => "invalid escape"
  | invalidNumber => "invalid number"
  | numberOutOfRange => "number out of range"
  | controlCharacter => "control character (\\u0000-\\u001F) found while parsing a string"
  | keyNotString => "key must be a string"
  | loneSurrogate => "lone leading surrogate in hex escape"
  | trailingComma => "trailing comma"
  | trailingCharacters => "trailing characters"
  | endOfEscape => "unexpected end of hex escape"
  | tooDeep => "recursion limit exceeded"
  | misfit m => m.message
  | noNode => "data did not match any variant of untagged enum FilterNode"

/-- A place in a text. -/
structure Position where
  /-- The line, from one on. -/
  line : Nat
  /-- The bytes of the line up to the place. -/
  column : Nat
deriving DecidableEq, Repr

/-- The place after the first `index` bytes of a text, where `line` and `column` are those of its
start. -/
def positionFrom (line column : Nat) : Nat → List Char → Position
  | index, [] => ⟨line, column + index⟩
  | index, c :: rest =>
    if index < c.utf8Size then ⟨line, column + index⟩
    else if c = '\n' then positionFrom (line + 1) 0 (index - c.utf8Size) rest
    else positionFrom line (column + c.utf8Size) (index - c.utf8Size) rest

/-- The place after the first `index` bytes of a text. -/
def positionAt (text : List Char) (index : Nat) : Position :=
  positionFrom 1 0 index text

/-- A problem with its place, if it has one. -/
structure Error where
  /-- What is wrong. -/
  problem : Problem
  /-- The place in the text. -/
  position : Option Position := none
deriving DecidableEq, Repr

/-- The wording of an error. -/
def Error.message (e : Error) : String :=
  match e.position with
  | none => e.problem.message
  | some p =>
    e.problem.message ++ " at line " ++ integer p.line ++ " column " ++ integer p.column

/-- A problem met while reading: its place is `ahead` bytes into the text not yet read. -/
structure Fault where
  /-- What is wrong. -/
  problem : Problem
  /-- The text not yet read. -/
  rest : List Char
  /-- How many bytes of it lie before the place. -/
  ahead : Nat
deriving DecidableEq, Repr

namespace Fault

/-- A problem at the end of what was read. -/
def here (problem : Problem) (rest : List Char) : Fault :=
  ⟨problem, rest, 0⟩

/-- A problem with the next character. -/
def next (problem : Problem) (rest : List Char) : Fault :=
  ⟨problem, rest, if rest.isEmpty then 0 else 1⟩

/-- The error that a fault is in the text that was read. -/
def toError (text : List Char) (fault : Fault) : Error :=
  ⟨fault.problem, some (positionAt text (byteCount text - byteCount fault.rest + fault.ahead))⟩

end Fault

end FilterSql.Json
