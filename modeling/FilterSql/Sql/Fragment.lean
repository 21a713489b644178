import FilterSql.Sql.Param
import FilterSql.Text.Digits

/-!
# SQL fragments

A fragment is a piece of SQL with the parameters that are bound to it. Its text has a question mark
for each parameter; other question marks may stand in the text as well, so the fragment records at
which bytes its placeholders stand.

Fragments are put together only by operations that carry parameters and placeholders along with the
text, so that the three cannot drift apart.

## Main definitions

* `FilterSql.Fragment`: a piece of SQL with its parameters.
* `FilterSql.Fragment.append`, `FilterSql.Fragment.join`, `FilterSql.Fragment.wrap`: composition.
* `FilterSql.Fragment.numbered`: the text with numbered placeholders.
* `FilterSql.Fragment.display`: the text and the parameters, for people to read.
-/

namespace FilterSql

open Text

/-- A piece of SQL with the parameters that are bound to it. -/
structure Fragment where
  /-- The text, with a question mark for each parameter. -/
  text : String
  /-- The parameters, in the order of their placeholders. -/
  params : List Param
  /-- The bytes of the text at which the placeholders stand. -/
  placeholders : List Nat

namespace Fragment

/-- The fragment without text. -/
def empty : Fragment := ⟨"", [], []⟩

instance : Inhabited Fragment := ⟨empty⟩

/-- Trusted SQL without parameters; its question marks are no placeholders. -/
def sql (text : String) : Fragment := ⟨text, [], []⟩

/-- Whether a fragment has neither text nor parameters. -/
def isEmpty (f : Fragment) : Bool :=
  f.text.isEmpty && f.params.isEmpty

/-- Two fragments one after the other. -/
def append (f g : Fragment) : Fragment :=
  ⟨f.text ++ g.text, f.params ++ g.params,
    f.placeholders ++ g.placeholders.map (f.text.utf8ByteSize + ·)⟩

instance : Append Fragment := ⟨append⟩

@[simp] theorem text_append (f g : Fragment) : (f ++ g).text = f.text ++ g.text := rfl

@[simp] theorem params_append (f g : Fragment) : (f ++ g).params = f.params ++ g.params := rfl

@[simp] theorem placeholders_append (f g : Fragment) :
    (f ++ g).placeholders =
      f.placeholders ++ g.placeholders.map (f.text.utf8ByteSize + ·) := rfl

/-- Fragments one after the other, with a separator between two. -/
def join (separator : String) : List Fragment → Fragment
  | [] => empty
  | [f] => f
  | f :: g :: fs => f ++ sql separator ++ join separator (g :: fs)

/-- A fragment between two pieces of trusted SQL. -/
def wrap (before after : String) (f : Fragment) : Fragment :=
  ⟨before ++ f.text ++ after, f.params, f.placeholders.map (before.utf8ByteSize + ·)⟩

@[simp] theorem text_wrap (before after : String) (f : Fragment) :
    (f.wrap before after).text = before ++ f.text ++ after := rfl

@[simp] theorem params_wrap (before after : String) (f : Fragment) :
    (f.wrap before after).params = f.params := rfl

@[simp] theorem placeholders_wrap (before after : String) (f : Fragment) :
    (f.wrap before after).placeholders =
      f.placeholders.map (before.utf8ByteSize + ·) := rfl

/-- A fragment between parentheses. -/
def parenthesize (f : Fragment) : Fragment :=
  f.wrap "(" ")"

/-- A text from its byte `start` on, in which the characters at the given bytes are replaced by
numbered placeholders, counted from `number` on. -/
def numberFrom (start number : Nat) : List Nat → List Char → List Char
  | _, [] => []
  | [], c :: rest => c :: rest
  | offset :: offsets, c :: rest =>
    if offset = start then
      '$' :: digitsOfNat number ++
        numberFrom (start + c.utf8Size) (number + 1) offsets rest
    else c :: numberFrom (start + c.utf8Size) number (offset :: offsets) rest

/-- The text with the placeholders `$1`, `$2` and so on. -/
def numbered (f : Fragment) : String :=
  String.ofList (numberFrom 0 1 f.placeholders f.text.toList)

/-- The text and the parameters, for people to read. -/
def display (f : Fragment) : String :=
  if f.params.isEmpty then f.text
  else f.text ++ " -- [" ++ ", ".intercalate (f.params.map Param.display) ++ "]"

/-- Equality of fragments, placeholders included. -/
def same (f g : Fragment) : Bool :=
  f.text == g.text && f.params == g.params && f.placeholders == g.placeholders

instance : BEq Fragment := ⟨same⟩

end Fragment

end FilterSql
