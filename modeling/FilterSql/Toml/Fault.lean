import FilterSql.Text.Digits

/-!
# Faults in TOML

A reader takes a text and gives a value with the text after it, or a fault. A fault has the text
from its place on. It tells what could not be read, if that has a name, and what might have stood
there; more may be added on the way out. Another reading of the same text is tried after a fault
unless it is final.

## Main definitions

* `FilterSql.Toml.Detail`, `FilterSql.Toml.Malformation`: what is wrong with a text.
* `FilterSql.Toml.Fault`: such a problem, met while reading.
* `FilterSql.Toml.Reading`: readers.
-/

namespace FilterSql.Toml

/-- What is wrong beyond the form of a text. -/
inductive Detail where
  /-- A number lies outside the range of what it stands for. -/
  | outOfRange
  /-- A whole number is too large for 64 bits. -/
  | tooLarge
  /-- A whole number is too small for 64 bits. -/
  | tooSmall
  /-- Values are nested too deeply, or a key has too many parts. -/
  | tooDeep
  /-- A key is given twice, in the table with a path if that is known. -/
  | repeatedKey (key : String) (table : Option (List String))
  /-- The path to a key leads through a value that is no table. -/
  | extendsValue (path : List String) (kind : String)
deriving DecidableEq, Repr

/-- The wording of a detail. -/
def Detail.message : Detail → String
  | outOfRange => "value is out of range"
  | tooLarge => "number too large to fit in target type"
  | tooSmall => "number too small to fit in target type"
  | tooDeep => "recursion limit exceeded"
  | repeatedKey key none => "duplicate key \x60" ++ key ++ "\x60"
  | repeatedKey key (some []) => "duplicate key \x60" ++ key ++ "\x60 in document root"
  | repeatedKey key (some path) =>
    "duplicate key \x60" ++ key ++ "\x60 in table \x60" ++ ".".intercalate path ++ "\x60"
  | extendsValue path kind =>
    "dotted key \x60" ++ ".".intercalate path ++
      "\x60 attempted to extend non-table type (" ++ kind ++ ")"

/-- What is wrong with a text: what could not be read, what might have stood there, and a detail. -/
structure Malformation where
  /-- What could not be read. -/
  subject : Option String := none
  /-- What might have stood there. -/
  expected : List String := []
  /-- A detail. -/
  detail : Option Detail := none
deriving DecidableEq, Repr

/-- The wording of what is wrong with a text. -/
def Malformation.message (m : Malformation) : String :=
  "\n".intercalate
    ((m.subject.map ("invalid " ++ ·)).toList ++
      (if m.expected.isEmpty then [] else ["expected " ++ ", ".intercalate m.expected]) ++
      (m.detail.map Detail.message).toList)

/-- A problem met while reading. -/
structure Fault where
  /-- What is wrong. -/
  problem : Malformation := {}
  /-- The text from the place of the problem on. -/
  rest : List Char
  /-- Whether no other reading of the text is tried. -/
  final : Bool := false
deriving DecidableEq, Repr

namespace Fault

/-- A text that cannot be read from here on. -/
def here (rest : List Char) : Fault :=
  { rest }

/-- A detail about what begins here. -/
def because (detail : Detail) (rest : List Char) : Fault :=
  { problem := { detail := some detail }, rest }

/-- The fault of a reader that reads a named thing; the innermost name is kept. -/
def about (subject : String) (f : Fault) : Fault :=
  { f with problem := { f.problem with subject := f.problem.subject <|> some subject } }

/-- The fault, where some things might have stood. -/
def expecting (things : List String) (f : Fault) : Fault :=
  { f with problem := { f.problem with expected := f.problem.expected ++ things } }

/-- The fault as the last word. -/
def settled (f : Fault) : Fault :=
  { f with final := true }

end Fault

/-- A reader: from a text it gives a value with the text after it, or a fault. -/
abbrev Reading := StateT (List Char) (Except Fault)

namespace Reading

variable {α : Type}

/-- The text cannot be read from here on. -/
def fail : Reading α :=
  fun s => .error (.here s)

/-- The reader of a named thing. -/
def about (subject : String) (r : Reading α) : Reading α :=
  fun s => (r s).mapError (Fault.about subject)

/-- A reader that fails where some things might have stood. -/
def expecting (things : List String) (r : Reading α) : Reading α :=
  fun s => (r s).mapError (Fault.expecting things)

/-- A reader besides which no other is tried. -/
def settled (r : Reading α) : Reading α :=
  fun s => (r s).mapError Fault.settled

/-- A reader, or else another one of the same text. -/
def orElse (r other : Reading α) : Reading α :=
  fun s =>
    match r s with
    | .ok x => .ok x
    | .error f => if f.final then .error f else other s

/-- A reader of what may be missing. -/
def optional (r : Reading α) : Reading (Option α) :=
  orElse (some <$> r) (pure none)

end Reading

/-- Read a character out of some. -/
def readOneOf (cs : List Char) : Reading Char
  | [] => .error (.here [])
  | c :: rest => if cs.contains c then .ok (c, rest) else .error (.here (c :: rest))

/-- Read a word. -/
def readWord (word : String) : Reading Unit :=
  fun s =>
    if word.toList.isPrefixOf s then .ok ((), s.drop word.length) else .error (.here s)

end FilterSql.Toml
