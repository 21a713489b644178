import FilterSql.Error
import FilterSql.Sql.Fragment

/-!
# Templates

A template is SQL in which a question mark stands for a parameter and two question marks for one
that stays. Between quotes, single or double, question marks stay as they are.

## Main definitions

* `FilterSql.Template.split`: the text and the placeholders of a template.
* `FilterSql.Template.count`: the number of placeholders of a template.
* `FilterSql.Fragment.ofTemplate`: a template with its parameters.
-/

namespace FilterSql

namespace Template

/-- Whether a character opens a quoted run. -/
def isQuote (c : Char) : Bool := c = '\'' || c = '"'

/-- The quote that is open after a character, given the one that is open before it. -/
def quoteAfter (quote : Option Char) (c : Char) : Option Char :=
  match quote with
  | some q => if c = q then none else some q
  | none => if isQuote c then some c else none

/-- A character before what a scan gives. -/
def consChar (c : Char) (r : List Char × List Nat) : List Char × List Nat :=
  (c :: r.1, r.2)

/-- A placeholder before what a scan gives. -/
def consPlaceholder (offset : Nat) (r : List Char × List Nat) : List Char × List Nat :=
  ('?' :: r.1, offset :: r.2)

/-- The characters and the placeholders of a template from its byte `start` on, with the quote that
is open there. The first character is passed over if it is the second of two question marks. -/
def scan (second : Bool) (quote : Option Char) (start : Nat) : List Char → List Char × List Nat
  | [] => ([], [])
  | c :: rest =>
    if second then scan false quote start rest
    else if quote.isNone && c = '?' then
      if rest.head? = some '?' then consChar '?' (scan true quote (start + 1) rest)
      else consPlaceholder start (scan false quote (start + 1) rest)
    else consChar c (scan false (quoteAfter quote c) (start + c.utf8Size) rest)

/-- The characters and the placeholders of a template. -/
def split (template : String) : List Char × List Nat :=
  scan false none 0 template.toList

/-- The number of placeholders of a template. -/
def count (template : String) : Nat :=
  (split template).2.length

end Template

/-- A template with its parameters, of which there have to be as many as placeholders. -/
def Fragment.ofTemplate (template : String) (params : List Param) : Except Cause Fragment :=
  let (text, placeholders) := Template.split template
  if placeholders.length = params.length then .ok ⟨String.ofList text, params, placeholders⟩
  else .error (.parameterCount placeholders.length params.length)

end FilterSql
