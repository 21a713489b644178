import FilterSql.Json.Number

/-!
# Reading JSON texts

A text is read from left to right. Lists and objects may be nested 127 deep; a fault is reported at
the place where reading stopped, so of two faults in a text the first is the one reported.

The readers take a measure of the characters left, which every list, object and value uses up more
slowly than it reads; it is computed from the text by `Json.readTree`.

## Main definitions

* `FilterSql.Json.readString`: a quoted text after its opening quote.
* `FilterSql.Json.nextItem`, `FilterSql.Json.nextKey`: the punctuation of lists and objects.
* `FilterSql.Json.readValue`: a value.
* `FilterSql.Json.readTree`: the value of a whole text, with its members as written.
* `FilterSql.Json.read`: the canonical value of a whole text.
-/

namespace FilterSql.Json

open Text

/-- The blanks of JSON: space, tab, line feed and carriage return. -/
def isJsonBlank (c : Char) : Bool :=
  c = ' ' || c = '\t' || c = '\n' || c = '\r'

/-- A text without the blanks at its start. -/
def skipBlanks (s : List Char) : List Char :=
  s.dropWhile isJsonBlank

/-- The end of a text, after blanks. -/
def readEnd (s : List Char) : Except Fault Unit :=
  match skipBlanks s with
  | [] => .ok ()
  | rest => .error (.next .trailingCharacters rest)

/-- The rest of a word whose first letter is read. -/
def readWord : List Char → List Char → Except Fault (List Char)
  | [], s => .ok s
  | _ :: _, [] => .error (.here .endInValue [])
  | expected :: word, c :: rest =>
    if c = expected then readWord word rest
    else .error (.next .expectedWord (c :: rest))

/-- The character of an escape with one letter. -/
def shortEscape? (c : Char) : Option Char :=
  match c with
  | '"' => some '"'
  | '\\' => some '\\'
  | '/' => some '/'
  | 'b' => some '\x08'
  | 'f' => some '\x0c'
  | 'n' => some '\n'
  | 'r' => some '\r'
  | 't' => some '\t'
  | _ => none

/-- The code unit that four hexadecimal digits write. -/
def codeUnit? (a b c d : Char) : Option Nat :=
  natOfHex? [a, b, c, d]

/-- The fault of an escape whose four digits are missing or wrong. -/
def codeUnitFault (s : List Char) : Fault :=
  if byteCount s < 4 then .here .endInString [] else ⟨.invalidEscape, s, 4⟩

/-- The first half of a surrogate pair. -/
def isHighSurrogate (n : Nat) : Bool := 0xD800 ≤ n && n ≤ 0xDBFF

/-- The second half of a surrogate pair. -/
def isLowSurrogate (n : Nat) : Bool := 0xDC00 ≤ n && n ≤ 0xDFFF

/-- The character of a surrogate pair. -/
def ofSurrogates (high low : Nat) : Char :=
  Char.ofNat (0x10000 + (high - 0xD800) * 0x400 + (low - 0xDC00))

/-- Put a character before what is read. -/
def consChar (c : Char) (r : Reading (List Char)) : Reading (List Char) :=
  r.map fun (s, rest) => (c :: s, rest)

/-- A quoted text after its opening quote, up to the closing one. -/
def readStringChars : List Char → Reading (List Char)
  | [] => .error (.here .endInString [])
  | '"' :: rest => .ok ([], rest)
  | ['\\'] => .error (.here .endInString [])
  | '\\' :: 'u' :: rest =>
    match rest with
    | a :: b :: c :: d :: rest' =>
      match codeUnit? a b c d with
      | none => .error (codeUnitFault rest)
      | some n =>
        if isLowSurrogate n then .error (.here .loneSurrogate rest')
        else if isHighSurrogate n then
          match rest' with
          | '\\' :: 'u' :: low =>
            match low with
            | a :: b :: c :: d :: low' =>
              match codeUnit? a b c d with
              | none => .error (codeUnitFault low)
              | some m =>
                if isLowSurrogate m then consChar (ofSurrogates n m) (readStringChars low')
                else .error (.here .loneSurrogate low')
            | _ => .error (codeUnitFault low)
          | [] => .error (.here .endInString [])
          | ['\\'] => .error (.here .endInString [])
          | '\\' :: other => .error (.next .endOfEscape other)
          | other => .error (.next .endOfEscape other)
        else consChar (Char.ofNat n) (readStringChars rest')
    | _ => .error (codeUnitFault rest)
  | '\\' :: e :: rest =>
    match shortEscape? e with
    | some c => consChar c (readStringChars rest)
    | none => .error (.next .invalidEscape (e :: rest))
  | c :: rest =>
    if c.toNat < 0x20 then .error (.next .controlCharacter (c :: rest))
    else consChar c (readStringChars rest)

/-- A quoted text after its opening quote. -/
def readString (s : List Char) : Reading String :=
  (readStringChars s).map fun (chars, rest) => (String.ofList chars, rest)

/-- Whether a list has another value, and the text from that value or the closing bracket on. -/
def nextItem (first : Bool) (s : List Char) : Reading Bool :=
  match skipBlanks s with
  | [] => .error (.here .endInList [])
  | ']' :: rest => .ok (false, ']' :: rest)
  | c :: rest =>
    if first then .ok (true, c :: rest)
    else if c = ',' then
      match skipBlanks rest with
      | [] => .error (.here .endInValue [])
      | ']' :: rest => .error (.next .trailingComma (']' :: rest))
      | rest => .ok (true, rest)
    else .error (.next .expectedListEnd (c :: rest))

/-- The key of the next member of an object, or nothing at the closing brace. -/
def nextKey (first : Bool) (s : List Char) : Reading (Option String) :=
  let key (s : List Char) : Reading (Option String) :=
    match s with
    | '"' :: rest => (readString rest).map fun (k, rest) => (some k, rest)
    | s => .error (.next .keyNotString s)
  match skipBlanks s with
  | [] => .error (.here .endInObject [])
  | '\x7d' :: rest => .ok (none, '\x7d' :: rest)
  | c :: rest =>
    if first then key (c :: rest)
    else if c = ',' then
      match skipBlanks rest with
      | [] => .error (.here .endInValue [])
      | '\x7d' :: rest => .error (.next .trailingComma ('\x7d' :: rest))
      | rest => key rest
    else .error (.next .expectedObjectEnd (c :: rest))

/-- The colon after a key. -/
def readColon (s : List Char) : Except Fault (List Char) :=
  match skipBlanks s with
  | [] => .error (.here .endInObject [])
  | ':' :: rest => .ok rest
  | rest => .error (.next .expectedColon rest)

mutual

/-- A value, after blanks, with at most `depth` levels of lists and objects. -/
def readValue : Nat → Nat → List Char → Reading Json
  | 0, _, s => .error (.here .endInValue s)
  | measure + 1, depth, s =>
    match skipBlanks s with
    | [] => .error (.here .endInValue [])
    | 'n' :: rest => (readWord "ull".toList rest).map (null, ·)
    | 't' :: rest => (readWord "rue".toList rest).map (bool true, ·)
    | 'f' :: rest => (readWord "alse".toList rest).map (bool false, ·)
    | '-' :: rest => (readNumber true rest).map fun (n, rest) => (number n, rest)
    | '"' :: rest => (readString rest).map fun (t, rest) => (string t, rest)
    | '[' :: rest =>
      match depth with
      | 0 => .error (.next .tooDeep ('[' :: rest))
      | depth + 1 => (readItems measure depth true rest).map fun (xs, rest) => (array xs, rest)
    | '\x7b' :: rest =>
      match depth with
      | 0 => .error (.next .tooDeep ('\x7b' :: rest))
      | depth + 1 =>
        (readMembers measure depth true rest).map fun (ms, rest) => (object ms, rest)
    | c :: rest =>
      if isDigit c then (readNumber false (c :: rest)).map fun (n, rest) => (number n, rest)
      else .error (.next .expectedValue (c :: rest))

/-- The values of a list from the next one on, up to its closing bracket. -/
def readItems : Nat → Nat → Bool → List Char → Except Fault (List Json × List Char)
  | 0, _, _, s => .error (.here .endInValue s)
  | measure + 1, depth, first, s => do
    let (more, s) ← nextItem first s
    if more then
      let (x, s) ← readValue measure depth s
      let (xs, s) ← readItems measure depth false s
      .ok (x :: xs, s)
    else .ok ([], s.drop 1)

/-- The members of an object from the next one on, up to its closing brace. -/
def readMembers : Nat → Nat → Bool → List Char →
    Except Fault (List (String × Json) × List Char)
  | 0, _, _, s => .error (.here .endInValue s)
  | measure + 1, depth, first, s => do
    let (key, s) ← nextKey first s
    match key with
    | some key =>
      let s ← readColon s
      let (x, s) ← readValue measure depth s
      let (ms, s) ← readMembers measure depth false s
      .ok ((key, x) :: ms, s)
    | none => .ok ([], s.drop 1)

end

/-- The greatest depth of nested lists and objects. -/
def maxDepth : Nat := 127

/-- A measure that suffices to read a text. -/
def measureOf (s : List Char) : Nat :=
  2 * s.length + 2

/-- The value of a whole text, with its members as written. -/
def readTree (s : List Char) : Except Fault Json := do
  let (x, rest) ← readValue (measureOf s) maxDepth s
  readEnd rest
  .ok x

/-- The canonical value of a whole text. -/
def read (text : String) : Except Error Json :=
  match readTree text.toList with
  | .ok x => .ok x.canonical
  | .error fault => .error (fault.toError text.toList)

end FilterSql.Json
