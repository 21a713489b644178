import FilterSql.Toml.Fault

/-!
# The parts of a line of TOML

A line ends with a line feed, before which a carriage return may stand. Blanks are spaces and tabs;
a comment goes from a number sign to the end of its line.

## Main definitions

* `FilterSql.Toml.readNewline`: the end of a line.
* `FilterSql.Toml.readLineEnd`: what may follow the content of a line.
* `FilterSql.Toml.skipTrivia`: what may stand between the values of a list.
-/

namespace FilterSql.Toml

/-- A blank within a line. -/
def isLineBlank (c : Char) : Bool := c = ' ' || c = '\t'

/-- A text without the blanks of the line at its start. -/
def skipLineBlanks (s : List Char) : List Char :=
  s.dropWhile isLineBlank

/-- A character that may stand in a comment or between quotes: a tab, or one that is no control
character of ASCII. -/
def isPlain (c : Char) : Bool :=
  c = '\t' || (0x20 ≤ c.toNat && c.toNat ≠ 0x7F)

/-- The text after the end of a line, if it begins with one. -/
def newline? : List Char → Option (List Char)
  | '\n' :: rest => some rest
  | '\r' :: '\n' :: rest => some rest
  | _ => none

/-- A text without the comment at its start. -/
def skipComment : List Char → List Char
  | '#' :: rest => rest.dropWhile isPlain
  | s => s

/-- The end of a line, or of the text. -/
def readNewline : Reading Unit :=
  fun s =>
    match newline? s with
    | some rest => .ok ((), rest)
    | none => if s.isEmpty then .ok ((), []) else .error (.here s)

/-- What may follow the content of a line: blanks, a comment, and the end of the line. -/
def readLineEnd : Reading Unit := do
  modify fun s => skipComment (skipLineBlanks s)
  readNewline

/-- A text without the blanks, the ends of lines and the comments at its start. A comment must have
the end of its line, and a carriage return its line feed; what cannot be read lies after the
character that shows this. The flag tells whether the text begins within a comment. -/
def skipTriviaFrom (inComment : Bool) : List Char → Except Fault (List Char)
  | [] => if inComment then .error (.here []) else .ok []
  | c :: rest =>
    if inComment && isPlain c then skipTriviaFrom true rest
    else if c = '\n' || (!inComment && isLineBlank c) then skipTriviaFrom false rest
    else if c = '\r' && rest.head? == some '\n' then skipTriviaFrom false rest
    else if !inComment && c = '#' then skipTriviaFrom true rest
    else if inComment || c = '\r' then .error (.here rest)
    else .ok (c :: rest)

/-- Pass over blanks, ends of lines and comments. -/
def skipTrivia : Reading Unit :=
  fun s => (skipTriviaFrom false s).map fun rest => ((), rest)

end FilterSql.Toml
