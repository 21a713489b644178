import FilterSql.Identifier
import FilterSql.Sql.Template

/-!
# Building fragments

A fragment is built from left to right: trusted SQL goes into its text, values only ever go in as
parameters.

## Main definitions

* `FilterSql.Fragment.push`, `FilterSql.Fragment.bind`: trusted SQL, and a parameter.
* `FilterSql.Fragment.bindList`, `FilterSql.Fragment.bindRows`, `FilterSql.Fragment.bindArray`:
  several parameters with the punctuation between them.
* `FilterSql.Fragment.pushIdentifier`: the name of a table.
* `FilterSql.BuildStep`, `FilterSql.BuildStep.run`: the steps of a build as data.
-/

namespace FilterSql

namespace Fragment

/-- The fragment with trusted SQL at its end. -/
def push (f : Fragment) (text : String) : Fragment :=
  f ++ sql text

/-- The placeholder of a parameter with its cast. -/
def placeholder (p : Param) : Fragment :=
  ⟨match p.cast? with
    | some type => "?::" ++ type
    | none => "?", [p], [0]⟩

/-- The fragment with a parameter at its end. -/
def bind (f : Fragment) (p : Param) : Fragment :=
  f ++ placeholder p

/-- Several parameters between two pieces of trusted SQL each, with a separator between two. -/
def separated (separator before after : String) (ps : List Param) : Fragment :=
  join separator (ps.map fun p => (placeholder p).wrap before after)

/-- The fragment with a list in parentheses at its end, such as `(?,?)`. -/
def bindList (f : Fragment) (ps : List Param) : Fragment :=
  f ++ (separated "," "" "" ps).parenthesize

/-- The fragment with a list of rows at its end, such as `(?), (?)`; no rows are the row of a
null. -/
def bindRows (f : Fragment) (ps : List Param) : Fragment :=
  if ps.isEmpty then f.push "(NULL)" else f ++ separated ", " "(" ")" ps

/-- The fragment with an array at its end, such as `array[?, ?]`. -/
def bindArray (f : Fragment) (ps : List Param) : Fragment :=
  f ++ (separated ", " "" "" ps).wrap "array[" "]"

/-- The fragment with the name of a table at its end. -/
def pushIdentifier (f : Fragment) (name : String) : Except Cause Fragment :=
  (Identifier.read name).map f.push

end Fragment

/-- A step of a build. -/
inductive BuildStep where
  /-- Trusted SQL. -/
  | push (text : String)
  /-- A parameter. -/
  | bind (p : Param)
  /-- A list in parentheses. -/
  | list (ps : List Param)
  /-- A list of rows. -/
  | rows (ps : List Param)
  /-- An array. -/
  | array (ps : List Param)
  /-- The name of a table. -/
  | identifier (name : String)
  /-- A template with its parameters. -/
  | template (template : String) (ps : List Param)
  /-- A fragment that is built already. -/
  | fragment (f : Fragment)

namespace BuildStep

/-- The fragment after a step; a step that fails leaves it as it was. -/
def run (f : Fragment) : BuildStep → Except Cause Fragment
  | push text => .ok (f.push text)
  | bind p => .ok (f.bind p)
  | list ps => .ok (f.bindList ps)
  | rows ps => .ok (f.bindRows ps)
  | array ps => .ok (f.bindArray ps)
  | identifier name => f.pushIdentifier name
  | template t ps => (Fragment.ofTemplate t ps).map (f ++ ·)
  | fragment g => .ok (f ++ g)

end BuildStep

end FilterSql
