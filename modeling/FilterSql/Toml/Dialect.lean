import FilterSql.Decimal.Style
import FilterSql.Text.Quoted
import FilterSql.Toml.Error

/-!
# Records in TOML

Records are read from the values of a TOML document. A name out of a list is a text, or the key of a
table whose value is an empty table or list; between braces there must be one key, and of a table
with a header the first one counts. A list that stands for a record may go on after its fields.

A problem with a value is reported where the value stands, or at its key if it has no stretch of its
own.

## Main definitions

* `FilterSql.Toml.Slot`: a value with its key.
* `FilterSql.Record.Dialect.toml`: the dialect of TOML values.
-/

namespace FilterSql

namespace Toml

open Text

/-- A value with the key that it stands under, if it has one. -/
structure Slot where
  /-- The key. -/
  key : Option Key
  /-- The value. -/
  item : Item

namespace Slot

/-- Where a value stands, or else its key. -/
def place (x : Slot) : Stretch :=
  (x.item.stretch? <|> x.key.map Key.stretch).getD ⟨[], []⟩

/-- An error with a value. -/
def blame (x : Slot) (problem : Problem) : Error :=
  ⟨problem, x.place⟩

/-- An error with the key of a value. -/
def blameKey (x : Slot) (problem : Problem) : Error :=
  ⟨problem, (x.key.map Key.stretch).getD x.place⟩

/-- The members of a table. -/
def members (t : Table) : List (String × Slot) :=
  t.map fun (key, x) => (key.name, ⟨some key, x⟩)

/-- What a value is. -/
def form (x : Slot) : Record.Form Slot :=
  match x.item with
  | .scalar (.text s) _ => .text s
  | .scalar (.bool b) _ => .bool b
  | .scalar .moment _ => .record []
  | .scalar _ _ => .other
  | .array items _ => .list (items.map (⟨none, ·⟩))
  | .table _ _ t _ => .record (members t)
  | .elements tables =>
    .list (tables.map fun (t, stretch) => ⟨none, .table false .headed t (some stretch)⟩)

/-- Messages on settings write numbers without a power of ten, and whole numbers with a point. -/
def floatStyle : Decimal.Style :=
  { Decimal.Style.plain with keepsPoint := true }

/-- How messages name a value. -/
def describe (x : Slot) : String :=
  match x.item with
  | .scalar (.text s) _ => "string " ++ quoted s
  | .scalar (.integer n) _ => "integer \x60" ++ integer n ++ "\x60"
  | .scalar (.float x) _ =>
    "floating point \x60" ++ floatStyle.write x ++ "\x60"
  | .scalar (.bool b) _ => "boolean \x60" ++ (if b then "true" else "false") ++ "\x60"
  | .scalar .moment _ => "map"
  | .table _ _ _ _ => "map"
  | .array _ _ => "sequence"
  | .elements _ => "sequence"

/-- Whether what goes with a name is void; a problem is reported at `place` if it stands nowhere
itself. -/
def checkVoid (place : Stretch) (x : Item) : Except Error Unit :=
  let problem : Option NamingProblem := match x with
    | .table _ _ t _ => if t.isEmpty then none else some .fullTable
    | .array items _ => if items.isEmpty then none else some .fullList
    | .elements tables => if tables.isEmpty then none else some .fullList
    | .scalar x _ => some (.noTable x.kind)
  match problem with
  | none => .ok ()
  | some p => .error ⟨.naming p, x.stretch?.getD place⟩

/-- The name that a value gives. -/
def naming (x : Slot) : Except Error (Record.Naming Error) :=
  match x.item with
  | .scalar (.text name) _ => .ok ⟨name, fun m => x.blame (.misfit m), .ok ()⟩
  | .table true _ [] _ => .error (x.blame (.naming .emptyBraces))
  | .table true _ (_ :: _ :: _) _ => .error (x.blame (.naming .severalKeys))
  | .table _ _ [] _ => .error (x.blame (.naming .emptyTable))
  | .table _ _ ((key, content) :: _) _ =>
    .ok ⟨key.name, fun m => ⟨.misfit m, key.stretch⟩, checkVoid x.place content⟩
  | _ => .error (x.blame (.naming .noName))

end Slot

end Toml

/-- The dialect of TOML values. -/
def Record.Dialect.toml : Record.Dialect Toml.Slot Toml.Error :=
  { form := Toml.Slot.form
    describe := Toml.Slot.describe
    blame := fun x m => x.blame (.misfit m)
    blameKey := fun x m => x.blameKey (.misfit m)
    naming := Toml.Slot.naming
    allowsSurplus := true }

end FilterSql
