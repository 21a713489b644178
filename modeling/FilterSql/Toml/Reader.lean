import FilterSql.Toml.Error
import FilterSql.Toml.Quoted

/-!
# Reading TOML documents

A document is read line by line: a line is empty, assigns a value to a key, or is the header of the
table that the following lines fill. Lists and tables between braces may be nested 79 deep, and a
dotted key may have 79 parts.

The readers take a measure of the characters left, which is computed from the text by `Toml.read`.

## Main definitions

* `FilterSql.Toml.readKey`: a dotted key.
* `FilterSql.Toml.readValue`: a value.
* `FilterSql.Toml.readLine`: a line.
* `FilterSql.Toml.read`: a document, as a table.
-/

namespace FilterSql.Toml

/-- The greatest depth of lists and tables between braces, and of dotted keys. -/
def maxDepth : Nat := 79

/-! ### Keys -/

/-- Pass over the blanks of a line. -/
def skipBlanks : Reading Unit :=
  modify skipLineBlanks

/-- A key without quotes. -/
def readBareKey : Reading String :=
  fun s =>
    let bare := s.takeWhile isKeyChar
    if bare.isEmpty then .error (.here s) else .ok (String.ofList bare, s.drop bare.length)

/-- The name of a part of a dotted key. -/
def readKeyName : Reading String := do
  match ← get with
  | '"' :: _ => readLineText
  | '\'' :: _ => readLineText
  | _ => readBareKey

/-- A part of a dotted key, with the blanks around it. -/
def readKeyPart : Reading Key := do
  skipBlanks
  let start ← get
  let name ← readKeyName
  let stop ← get
  skipBlanks
  return ⟨name, ⟨start, stop⟩⟩

/-- The parts of a dotted key. A point after which no part can be read is left. -/
def readKeyParts : Nat → Reading (List Key)
  | 0 => .fail
  | measure + 1 => do
    let part ← readKeyPart
    let more ← Reading.optional (do
      let _ ← readWord "."
      readKeyParts measure)
    return part :: more.getD []

/-- A dotted key, as the path to a table and a key of that table. -/
def readKey : Reading (List Key × Key) := do
  let text ← get
  let parts ← (readKeyParts (text.length + 1)).about "key"
  match parts.getLast? with
  | some key =>
    if parts.length ≤ maxDepth then return (parts.dropLast, key)
    else throw (.because .tooDeep text)
  | none => .fail

/-- The sign between a key and its value. -/
def readEquals : Reading Unit :=
  .expecting ["\x60.\x60", "\x60=\x60"] (readWord "=").settled

/-! ### Values -/

/-- What stands where no value begins is taken for a text that lacks its quotes. -/
def unquoted (r : Reading Scalar) : Reading Scalar :=
  .expecting ["\x60\"\x60", "\x60'\x60"] (r.about "string")

/-- A value without parts, at its first character. -/
def readScalar (c : Char) : Reading Scalar :=
  if c = '"' || c = '\'' then .text <$> readText
  else if c = '+' || c = '-' || Text.isDigit c then readNumber
  else if c = '_' then .expecting ["leading digit"] (.integer <$> readInteger)
  else if c = '.' then .expecting ["leading digit"] (.float <$> readFloat)
  else if c = 't' then unquoted ((readWord "true").settled >>= fun _ => pure (.bool true))
  else if c = 'f' then unquoted ((readWord "false").settled >>= fun _ => pure (.bool false))
  else unquoted (.float <$> readSpecial)

/-- One level of lists and tables less, if there is one left. -/
def deeper : Nat → Reading Nat
  | 0 => .settled fun s => .error (.because .tooDeep s)
  | depth + 1 => pure depth

/-- The members that assignments between braces give. -/
def gather (text : List Char) (pairs : List (List Key × Key × Item)) : Reading Table :=
  match pairs.foldlM (fun t (path, key, x) => assign .braces none path key x t) [] with
  | .ok t => pure t
  | .error detail => throw (.because detail text)

/-- The bracket at the end of a list or a table. -/
def readClosing (subject bracket : String) : Reading Unit :=
  .expecting ["\x60" ++ bracket ++ "\x60"] ((readWord bracket).about subject)

mutual

/-- A value, with at most `depth` levels of lists and tables. -/
def readValue : Nat → Nat → Reading Item
  | 0, _ => .fail
  | measure + 1, depth => do
    let start ← get
    match start with
    | [] => .fail
    | '[' :: inner => do
      let depth ← deeper depth
      set inner
      let items ← readList measure depth
      return .array items ⟨start, ← get⟩
    | '\x7b' :: inner => do
      let depth ← deeper depth
      set inner
      let members ← readBraces measure depth
      return .table true .headed members (some ⟨start, ← get⟩)
    | c :: _ => do
      let x ← readScalar c
      return .scalar x ⟨start, ← get⟩

/-- The values of a list and its closing bracket. A comma may follow the last value. -/
def readList : Nat → Nat → Reading (List Item)
  | 0, _ => .fail
  | measure + 1, depth => .settled do
    let items := (← (readItems measure depth).optional).getD []
    unless items.isEmpty do
      let _ ← (readWord ",").optional
    skipTrivia
    readClosing "array" "]"
    return items

/-- At least one value of a list. A comma after which no value can be read is left. -/
def readItems : Nat → Nat → Reading (List Item)
  | 0, _ => .fail
  | measure + 1, depth => do
    skipTrivia
    let x ← readValue measure depth
    skipTrivia
    let more ← Reading.optional (do
      let _ ← readWord ","
      readItems measure depth)
    return x :: more.getD []

/-- The assignments between braces, and the closing brace. -/
def readBraces : Nat → Nat → Reading Table
  | 0, _ => .fail
  | measure + 1, depth => .settled do
    let text ← get
    let pairs := (← (readPairs measure depth).optional).getD []
    skipBlanks
    let members ← gather text pairs
    readClosing "inline table" "\x7d"
    return members

/-- At least one assignment between braces. A comma after which no key can be read is left. -/
def readPairs : Nat → Nat → Reading (List (List Key × Key × Item))
  | 0, _ => .fail
  | measure + 1, depth => do
    let (path, key) ← readKey
    readEquals
    skipBlanks
    let x ← (readValue measure depth).settled
    skipBlanks
    let more ← Reading.optional (do
      let _ ← readWord ","
      readPairs measure depth)
    return (path, key, x) :: more.getD []

end

/-- A measure that suffices to read a value. -/
def measureOf (s : List Char) : Nat :=
  4 * s.length + 4

/-! ### Lines -/

/-- The end of a line with content, and what else might have stood there. -/
def readContentEnd : Reading Unit :=
  .expecting ["newline", "\x60#\x60"] readLineEnd

/-- A change of a document, where `text` begins with what asks for it. -/
def change (text : List Char) (r : Except Detail Document) : Reading Document :=
  match r with
  | .ok d => pure d
  | .error detail => throw (.because detail text)

/-- A line that assigns a value. -/
def readAssignment (d : Document) : Reading Document := do
  let text ← get
  let (path, key) ← readKey
  readEquals
  skipBlanks
  let x ← readValue (measureOf text) maxDepth
  readContentEnd
  change text (d.assign path key x)

/-- A line with a header between some brackets. -/
def readHeader (opening closing : String)
    (start : Stretch → List Key → Key → Except Detail Document) : Reading Document :=
  .about "table header" do
    let text ← get
    readWord opening
    let (path, key) ← readKey
    .expecting ["\x60.\x60", "\x60" ++ closing ++ "\x60"] (readWord closing)
    let stop ← get
    readContentEnd
    change text (start ⟨text, stop⟩ path key)

/-- A line without the blanks at its start. -/
def readLine (d : Document) : Reading Document := do
  match ← get with
  | ['['] => Reading.fail.about "table header"
  | '[' :: '[' :: _ => readHeader "[[" "]]" d.openElement
  | '[' :: _ => readHeader "[" "]" d.openTable
  | '#' :: _ => readLineEnd *> pure d
  | '\n' :: _ => readNewline *> pure d
  | '\r' :: _ => readNewline *> pure d
  | _ => readAssignment d

/-- The lines of a document. -/
def readLines : Nat → Document → List Char → Except Fault Document
  | 0, _, s => .error (.here s)
  | measure + 1, d, s =>
    match skipLineBlanks s with
    | [] => .ok d
    | s =>
      match readLine d s with
      | .ok (d, rest) => readLines measure d rest
      | .error f => .error f

/-- A text without the mark of its byte order. -/
def dropByteOrderMark : List Char → List Char
  | '\uFEFF' :: rest => rest
  | s => s

/-- A document, as the table without a header. -/
def read (text : String) : Except Error Item := do
  let s := text.toList
  let d ← (readLines (s.length + 1) (.empty s) (dropByteOrderMark s)).mapError Fault.toError
  let root ← d.finish.mapError fun detail => (Fault.because detail []).toError
  return .table false .headed root.members (some root.stretch)

end FilterSql.Toml
