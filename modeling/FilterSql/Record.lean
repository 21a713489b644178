import FilterSql.Text.Digits

/-!
# Records

Files hold records, in more than one notation. A record is read from a value with named members,
which may stand in any order and among which unknown ones are passed over, or from a list of its
fields in their order. Of several problems the first one met is reported: members are looked at as
they stand, then missing fields in the order of the record.

A dialect says what the values of a notation are and how a problem with one of them is reported. The
readers below work in every dialect.

## Main definitions

* `FilterSql.Record.Misfit`, `FilterSql.Record.Misfit.message`: what is wrong with a value.
* `FilterSql.Record.Form`, `FilterSql.Record.Dialect`: the values of a notation.
* `FilterSql.Record.Field`, `FilterSql.Record.decode`: the fields of a record and its reader.
* `FilterSql.Record.decodeName`: a name out of a fixed list.
-/

namespace FilterSql.Record

open Text

/-- What is wrong with a value that should have a given form. -/
inductive Misfit where
  /-- The value has the wrong type. -/
  | invalidType (found expected : String)
  /-- The value has the right type, but cannot stand here. -/
  | invalidValue (found expected : String)
  /-- A list has the wrong length. -/
  | invalidLength (length : Nat) (expected : String)
  /-- A field is missing. -/
  | missingField (name : String)
  /-- A field occurs twice. -/
  | duplicateField (name : String)
  /-- A member is none of the fields. -/
  | unknownField (name : String) (allowed : List String)
  /-- A name is none of those allowed. -/
  | unknownName (name : String) (allowed : List String)
deriving DecidableEq, Repr

/-- Names as a message lists them. -/
def listed (names : List String) : String :=
  ", ".intercalate (names.map fun name => "\x60" ++ name ++ "\x60")

/-- The wording of a misfit. -/
def Misfit.message : Misfit → String
  | invalidType found expected => "invalid type: " ++ found ++ ", expected " ++ expected
  | invalidValue found expected => "invalid value: " ++ found ++ ", expected " ++ expected
  | invalidLength length expected =>
    "invalid length " ++ integer length ++ ", expected " ++ expected
  | missingField name => "missing field \x60" ++ name ++ "\x60"
  | duplicateField name => "duplicate field \x60" ++ name ++ "\x60"
  | unknownField name allowed =>
    "unknown field \x60" ++ name ++ "\x60, expected one of " ++ listed allowed
  | unknownName name allowed =>
    "unknown variant \x60" ++ name ++ "\x60, expected one of " ++ listed allowed

/-! ### Dialects -/

/-- What a value is, one level deep. -/
inductive Form (V : Type) where
  /-- The word for no value. -/
  | absent
  /-- A boolean. -/
  | bool (b : Bool)
  /-- A text. -/
  | text (s : String)
  /-- A list. -/
  | list (items : List V)
  /-- Named members, as they stand. -/
  | record (members : List (String × V))
  /-- Anything else. -/
  | other

/-- A name as a value gives it, with the content that goes with it. -/
structure Naming (E : Type) where
  /-- The name. -/
  name : String
  /-- How a problem with the name is reported. -/
  blame : Misfit → E
  /-- Whether the content is void, as it has to be. -/
  content : Except E Unit

/-- The values of a notation, with the errors that report a problem with one. -/
structure Dialect (V E : Type) where
  /-- What a value is. -/
  form : V → Form V
  /-- How messages name a value. -/
  describe : V → String
  /-- A problem with a value. -/
  blame : V → Misfit → E
  /-- A problem with the key that a value stands under. -/
  blameKey : V → Misfit → E
  /-- The name that a value gives. -/
  naming : V → Except E (Naming E)
  /-- Whether a list that stands for a record may go on after its fields. -/
  allowsSurplus : Bool

variable {V E α : Type}

/-- The error that a value has the wrong type. -/
def Dialect.wrongType (dialect : Dialect V E) (x : V) (expected : String) : E :=
  dialect.blame x (.invalidType (dialect.describe x) expected)

/-! ### Values -/

/-- A text. -/
def decodeString (dialect : Dialect V E) (x : V) : Except E String :=
  match dialect.form x with
  | .text s => .ok s
  | _ => .error (dialect.wrongType x "a string")

/-- A boolean. -/
def decodeBool (dialect : Dialect V E) (x : V) : Except E Bool :=
  match dialect.form x with
  | .bool b => .ok b
  | _ => .error (dialect.wrongType x "a boolean")

/-- A list. -/
def decodeList (dialect : Dialect V E) (item : V → Except E α) (x : V) : Except E (List α) :=
  match dialect.form x with
  | .list items => items.mapM item
  | _ => .error (dialect.wrongType x "a sequence")

/-- A value that may be absent. -/
def decodeOption (dialect : Dialect V E) (item : V → Except E α) (x : V) : Except E (Option α) :=
  match dialect.form x with
  | .absent => .ok none
  | _ => (item x).map some

/-- A name out of a list, for which a reader is given. -/
def decodeName (dialect : Dialect V E) (allowed : List String) (ofName? : String → Option α)
    (x : V) : Except E α := do
  let given ← dialect.naming x
  match ofName? given.name with
  | some a => given.content.map fun _ => a
  | none => .error (given.blame (.unknownName given.name allowed))

/-! ### Records -/

/-- A field of a record that is read into a value of type `α`. -/
structure Field (V E α : Type) where
  /-- The key of the field. -/
  name : String
  /-- Whether the field has to be given. -/
  required : Bool
  /-- Read the field into a record. -/
  decode : V → α → Except E α

/-- Read the known ones of some members into a record. Unknown members are passed over, unless the
record is closed. -/
def decodeMembers (dialect : Dialect V E) (closed : Bool) (fields : List (Field V E α)) (start : α)
    (members : List (String × V)) : Except E α :=
  members.foldlM (fun record (key, x) =>
    match fields.find? (·.name == key) with
    | some field => field.decode x record
    | none =>
      if closed then .error (dialect.blameKey x (.unknownField key (fields.map Field.name)))
      else .ok record) start

/-- Read the fields of a record from a list, where `index` of them are read already; `short` reports
that the list ends too early. -/
def decodeItems (short : Nat → E) : Nat → List (Field V E α) → α → List V → Except E α
  | _, [], record, _ => .ok record
  | index, field :: fields, record, x :: xs => do
    decodeItems short (index + 1) fields (← field.decode x record) xs
  | index, field :: fields, record, [] =>
    if field.required then .error (short index)
    else decodeItems short (index + 1) fields record []

/-- Read a record from named members or from a list of its fields. -/
def decode (dialect : Dialect V E) (name : String) (closed : Bool) (fields : List (Field V E α))
    (start : α) (x : V) : Except E α :=
  match dialect.form x with
  | .record members => do
    let record ← decodeMembers dialect closed fields start members
    match fields.find? fun f => f.required && !members.any (·.1 == f.name) with
    | some field => .error (dialect.blame x (.missingField field.name))
    | none => .ok record
  | .list items => do
    let expected := "struct " ++ name ++ " with " ++ integer fields.length ++ " elements"
    let short := fun index => dialect.blame x (.invalidLength index expected)
    let record ← decodeItems short 0 fields start items
    if fields.length < items.length ∧ !dialect.allowsSurplus then
      .error (dialect.blame x (.invalidLength items.length "fewer elements in array"))
    else .ok record
  | _ => .error (dialect.wrongType x ("struct " ++ name))

end FilterSql.Record
