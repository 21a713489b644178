import FilterSql.Text.Combining
import FilterSql.Text.Digits
import FilterSql.Text.Unprintable

/-!
# Quoted text

Messages show a text between double quotes, so that its ends and its invisible characters can be
seen. A double quote, a backslash and the usual controls take a backslash; other characters that
would be invisible or would attach to their neighbour are written by their code point.

## Main definitions

* `FilterSql.Text.escapeChar`: how one character is shown.
* `FilterSql.Text.quoted`: a text between double quotes.
-/

namespace FilterSql.Text

/-- How one character of a quoted text is shown. -/
def escapeChar (c : Char) : List Char :=
  if c = '\x00' then ['\\', '0']
  else if c = '\t' then ['\\', 't']
  else if c = '\n' then ['\\', 'n']
  else if c = '\r' then ['\\', 'r']
  else if c = '"' then ['\\', '"']
  else if c = '\\' then ['\\', '\\']
  else if isCombining c || isUnprintable c then
    ['\\', 'u', '\x7b'] ++ hexDigits c.toNat ++ ['\x7d']
  else [c]

/-- A text between double quotes. -/
def quoted (s : String) : String :=
  String.ofList ('"' :: s.toList.flatMap escapeChar ++ ['"'])

end FilterSql.Text
