import FilterSql.Toml.Line

/-!
# Quoted texts of TOML

A text stands between double quotes, with escapes, or between single quotes, without them. Three
quotes on each side admit ends of lines in the text. Nothing else begins with a quote, so a fault in
a quoted text is final.

## Main definitions

* `FilterSql.Toml.readEscape`: an escape.
* `FilterSql.Toml.readLineText`: a text on one line.
* `FilterSql.Toml.readText`: a text of any of the four kinds.
-/

namespace FilterSql.Toml

open Text

/-- The character with a code point, if that is the code point of a character. -/
def charOfCode? (n : Nat) : Option Char :=
  if n.isValidChar then some (Char.ofNat n) else none

/-- The character whose code point is written in a number of hexadecimal digits. -/
def readCode (width : Nat) : Reading Char :=
  fun s =>
    let digits := s.take width
    match natOfHex? digits with
    | none => .error (.here s)
    | some n =>
      if digits.length < width then .error (.here s)
      else
        match charOfCode? n with
        | some c => .ok (c, s.drop width)
        | none => .error (.because .outOfRange s)

/-- The characters that may follow a backslash, as messages list them. -/
def escapeLetters : List String :=
  ["b", "f", "n", "r", "t", "u", "U", "\\", "\""].map fun c => "\x60" ++ c ++ "\x60"

/-- What follows a backslash and is no escape. The fault comes after the character, if that is a
character of ASCII. -/
def refuseEscape : Reading Char :=
  .settled <| .expecting escapeLetters <| .about "escape sequence" fun s =>
    match s with
    | [] => .error (.here [])
    | c :: rest => .error (.here (if c.utf8Size = 1 then rest else c :: rest))

/-- An escape after its backslash. -/
def readEscape : Reading Char
  | 'b' :: rest => .ok ('\x08', rest)
  | 'f' :: rest => .ok ('\x0c', rest)
  | 'n' :: rest => .ok ('\n', rest)
  | 'r' :: rest => .ok ('\r', rest)
  | 't' :: rest => .ok ('\t', rest)
  | '"' :: rest => .ok ('"', rest)
  | '\\' :: rest => .ok ('\\', rest)
  | 'u' :: rest => (readCode 4).settled.about "unicode 4-digit hex code" rest
  | 'U' :: rest => (readCode 8).settled.about "unicode 8-digit hex code" rest
  | s => refuseEscape s

/-- Put a character before the text that a reader gives. -/
def consText (c : Char) (r : Except Fault (List Char × List Char)) :
    Except Fault (List Char × List Char) :=
  r.map fun (s, rest) => (c :: s, rest)

/-- A text on one line with escapes, after its opening quote. -/
def readEscaped : Nat → List Char → Except Fault (List Char × List Char)
  | 0, s => .error (.here s)
  | _, [] => .error (.here [])
  | measure + 1, c :: rest =>
    if c = '"' then .ok ([], rest)
    else if c = '\\' && !rest.isEmpty then
      match readEscape rest with
      | .ok (e, rest) => consText e (readEscaped measure rest)
      | .error f => .error f
    else if isPlain c && c ≠ '\\' then consText c (readEscaped measure rest)
    else .error (.here (c :: rest))

/-- A text on one line without escapes, after its opening quote. -/
def readLiteral : List Char → Except Fault (List Char × List Char)
  | [] => .error (.here [])
  | c :: rest =>
    if c = '\'' then .ok ([], rest)
    else if isPlain c then consText c (readLiteral rest)
    else .error (.here (c :: rest))

/-- The end of a text over several lines: three quotes, before which up to two more belong to the
text. -/
def readClosing? (quote : Char) (s : List Char) : Option (List Char × List Char) :=
  let quotes := (s.takeWhile (· = quote)).length
  if quotes < 3 then none
  else
    let kept := min (quotes - 3) 2
    some (List.replicate kept quote, s.drop (kept + 3))

/-- A text without the blanks and ends of lines at its start. -/
def skipBlankLines : List Char → List Char
  | [] => []
  | c :: rest =>
    if isLineBlank c || c = '\n' then skipBlankLines rest
    else if c = '\r' && rest.head? == some '\n' then skipBlankLines rest
    else c :: rest

/-- The text from the next word on, after a backslash at the end of a line. -/
def readContinuation? (s : List Char) : Option (List Char) :=
  (newline? (skipLineBlanks s)).map skipBlankLines

/-- Whether a text over several lines may go on with the next character. -/
def goesOn (s : List Char) : Bool :=
  s.head?.any isPlain || (newline? s).isSome

/-- A text over several lines, after its opening quotes, with or without escapes. Each end of a line
is a line feed in the text. One or two quotes belong to the text if it goes on after them; with
escapes anything but the end of the file will do. -/
def readLinesText (quote : Char) (escapes : Bool) : Nat → List Char →
    Except Fault (List Char × List Char)
  | 0, s => .error (.here s)
  | measure + 1, s =>
    match readClosing? quote s with
    | some r => .ok r
    | none =>
      match newline? s with
      | some rest => consText '\n' (readLinesText quote escapes measure rest)
      | none =>
        match s with
        | [] => .error (.here [])
        | c :: rest =>
          if c = quote then
            let after := rest.dropWhile (· = quote)
            if goesOn after || (escapes && !after.isEmpty) then
              consText c (readLinesText quote escapes measure rest)
            else .error (.here s)
          else if escapes && c = '\\' then
            match readContinuation? rest with
            | some rest => readLinesText quote escapes measure rest
            | none =>
              if rest.isEmpty then .error (.here s)
              else
                match readEscape rest with
                | .ok (e, rest) => consText e (readLinesText quote escapes measure rest)
                | .error f => .error f
          else if isPlain c then consText c (readLinesText quote escapes measure rest)
          else .error (.here s)

/-- The rest of a text over several lines, whose first line may be empty. -/
def readLinesFrom (quote : Char) (escapes : Bool) : Reading (List Char) :=
  fun s => readLinesText quote escapes (s.length + 1) ((newline? s).getD s)

/-- The characters of a text on one line. -/
def readLineChars : Reading (List Char)
  | '"' :: rest =>
    Reading.about "basic string" (Reading.settled fun s => readEscaped (s.length + 1) s) rest
  | '\'' :: rest => Reading.about "literal string" (Reading.settled readLiteral) rest
  | s => .error (.here s)

/-- The characters of a text of any of the four kinds. -/
def readTextChars : Reading (List Char)
  | '"' :: '"' :: '"' :: rest =>
    (readLinesFrom '"' true).settled.about "multiline basic string" rest
  | '\'' :: '\'' :: '\'' :: rest =>
    (readLinesFrom '\'' false).settled.about "multiline literal string" rest
  | s => readLineChars s

/-- A text on one line. -/
def readLineText : Reading String :=
  String.ofList <$> readLineChars

/-- A text of any of the four kinds. -/
def readText : Reading String :=
  String.ofList <$> readTextChars

end FilterSql.Toml
