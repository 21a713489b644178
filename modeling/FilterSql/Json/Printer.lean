import FilterSql.Decimal.Style
import FilterSql.Json.Basic
import FilterSql.Text.Digits

/-!
# Writing JSON

A value is written without blanks, its members in the order they stand. In a text the double quote,
the backslash and the controls below U+0020 are escaped, by a letter where JSON has one.

## Main definitions

* `FilterSql.Json.writeString`, `FilterSql.Json.write`: the characters of a text and of a value.
* `FilterSql.Json.text`: a value as a text.
* `FilterSql.Json.prettyText`: a value over several lines.
-/

namespace FilterSql.Json

open Text

/-- How one character is written inside a JSON text. -/
def writeChar (c : Char) : List Char :=
  if c = '"' then ['\\', '"']
  else if c = '\\' then ['\\', '\\']
  else if c = '\x08' then ['\\', 'b']
  else if c = '\t' then ['\\', 't']
  else if c = '\n' then ['\\', 'n']
  else if c = '\x0c' then ['\\', 'f']
  else if c = '\r' then ['\\', 'r']
  else if c.toNat < 0x20 then ['\\', 'u'] ++ padLeft '0' 4 (hexDigits c.toNat)
  else [c]

/-- A text between double quotes. -/
def writeString (s : String) : List Char :=
  '"' :: s.toList.flatMap writeChar ++ ['"']

/-- A number; what is not finite is written as `null`. -/
def writeNumber : Number → List Char
  | .int n _ => integerChars n
  | .float x => if x.isFinite then (Decimal.Style.json.write x).toList else "null".toList

mutual

/-- A value without blanks. -/
def write : Json → List Char
  | null => "null".toList
  | bool true => "true".toList
  | bool false => "false".toList
  | number n => writeNumber n
  | string s => writeString s
  | array items => '[' :: writeItems items
  | object members => '\x7b' :: writeMembers members
termination_by structural x => x

/-- The values of a list, up to the bracket that closes it. -/
def writeItems : List Json → List Char
  | [] => [']']
  | x :: xs => write x ++ writeMoreItems xs
termination_by structural xs => xs

/-- The values of a list after the first, up to the bracket that closes it. -/
def writeMoreItems : List Json → List Char
  | [] => [']']
  | x :: xs => ',' :: write x ++ writeMoreItems xs
termination_by structural xs => xs

/-- The members of an object, up to the brace that closes it. -/
def writeMembers : List (String × Json) → List Char
  | [] => ['\x7d']
  | (k, x) :: xs => writeString k ++ ':' :: write x ++ writeMoreMembers xs
termination_by structural xs => xs

/-- The members of an object after the first, up to the brace that closes it. -/
def writeMoreMembers : List (String × Json) → List Char
  | [] => ['\x7d']
  | (k, x) :: xs => ',' :: writeString k ++ ':' :: write x ++ writeMoreMembers xs
termination_by structural xs => xs

end

/-- A value as a text without blanks. -/
def text (x : Json) : String :=
  String.ofList (write x)

/-- A new line with two blanks for each level. -/
private def newLine (level : Nat) : String :=
  "\n" ++ String.ofList (List.replicate (2 * level) ' ')

mutual

/-- A value over several lines, from a level of indentation on. -/
private def pretty (level : Nat) : Json → String
  | array [] => "[]"
  | array (x :: xs) =>
    "[" ++ newLine (level + 1) ++ pretty (level + 1) x ++ prettyItems (level + 1) xs ++
      newLine level ++ "]"
  | object [] => "\x7b\x7d"
  | object ((k, x) :: xs) =>
    "\x7b" ++ newLine (level + 1) ++ String.ofList (writeString k) ++ ": " ++
      pretty (level + 1) x ++ prettyMembers (level + 1) xs ++ newLine level ++ "\x7d"
  | null => text null
  | bool b => text (bool b)
  | number n => text (number n)
  | string s => text (string s)
termination_by structural x => x

/-- The values of a list after the first, each on its line. -/
private def prettyItems (level : Nat) : List Json → String
  | [] => ""
  | x :: xs => "," ++ newLine level ++ pretty level x ++ prettyItems level xs
termination_by structural xs => xs

/-- The members of an object after the first, each on its line. -/
private def prettyMembers (level : Nat) : List (String × Json) → String
  | [] => ""
  | (k, x) :: xs =>
    "," ++ newLine level ++ String.ofList (writeString k) ++ ": " ++ pretty level x ++
      prettyMembers level xs
termination_by structural xs => xs

end

/-- A value over several lines, indented by two blanks for each level. -/
def prettyText (x : Json) : String :=
  pretty 0 x

end FilterSql.Json
