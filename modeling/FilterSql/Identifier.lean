import FilterSql.Error
import FilterSql.Text.Blank
import FilterSql.Text.Digits

/-!
# Identifiers

The name of a table is one part or several parts set apart by points. A part is a letter or an
underscore followed by letters, digits and underscores, or any characters between double quotes.

## Main definitions

* `FilterSql.Identifier.isValid`: the names of tables without surrounding blanks.
* `FilterSql.Identifier.read`: a name of a table, without the blanks around it.
-/

namespace FilterSql.Identifier

open Text

/-- A character that a plain part can begin with. -/
def isStart (c : Char) : Bool :=
  ('a' ≤ c && c ≤ 'z') || ('A' ≤ c && c ≤ 'Z') || c = '_'

/-- A character that a plain part can go on with. -/
def isInner (c : Char) : Bool :=
  isStart c || isDigit c

/-- Where a reader stands within a name. -/
inductive State where
  /-- A part has to begin. -/
  | start
  /-- Within a plain part. -/
  | plain
  /-- Within a quoted part, with or without a character so far. -/
  | quoted (nonempty : Bool)
  /-- After a quoted part. -/
  | closed
deriving DecidableEq, Repr

/-- Where a reader stands after one more character, if a name can go on with it. -/
def State.step : State → Char → Option State
  | start, c =>
    if isStart c then some plain else if c = '"' then some (quoted false) else none
  | plain, c =>
    if isInner c then some plain else if c = '.' then some start else none
  | quoted nonempty, c =>
    if c = '"' then (if nonempty then some closed else none) else some (quoted true)
  | closed, c => if c = '.' then some start else none

/-- Whether a name can end here. -/
def State.isFinal : State → Bool
  | plain => true
  | closed => true
  | _ => false

/-- Whether the rest of a name is well formed from a state on. -/
def accepts : State → List Char → Bool
  | state, [] => state.isFinal
  | state, c :: rest =>
    match state.step c with
    | some next => accepts next rest
    | none => false

/-- The names of tables without surrounding blanks. -/
def isValid (name : List Char) : Bool :=
  accepts .start name

/-- A name of a table, without the blanks around it. -/
def read (name : String) : Except Cause String :=
  if isValid (trimChars name.toList) then .ok (trim name)
  else .error (.invalidIdentifier name)

end FilterSql.Identifier
