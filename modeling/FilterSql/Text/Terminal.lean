/-!
# Control sequences

A text for a terminal holds more than what is to be seen. A control character acts at once, and an
escape character begins a sequence: a short one, a control sequence up to its last letter, or a
longer string up to its terminator. The plain text is what is left without them.

A sequence is broken off by the next escape character, and by the characters CAN and SUB. Tabs and
line breaks that stand in a short or a control sequence are shown; what follows them is text up to
the next control character, from which on the sequence is continued.

## Main definitions

* `FilterSql.Text.Terminal.bold`: a text that a terminal shows in bold.
* `FilterSql.Text.Terminal.Mode`: the kinds of stretches in a text for a terminal.
* `FilterSql.Text.Terminal.plain`: a text without its control characters and sequences.
-/

namespace FilterSql.Text.Terminal

/-- A text that a terminal shows in bold. -/
def bold (s : String) : String :=
  "\x1b[1m" ++ s ++ "\x1b[0m"

/-- The controls that move within a text: tab, line feed, form feed and carriage return. -/
def isLayout (c : Char) : Bool :=
  c = '\t' || c = '\n' || c = '\x0c' || c = '\r'

/-- A character that is shown where text stands: one that is no control character of ASCII, or one
of the layout. -/
def isVisible (c : Char) : Bool :=
  isLayout c || (' ' ≤ c && c ≠ '\x7f')

/-- What a terminal is reading. -/
inductive Mode where
  /-- Text to be shown. -/
  | text
  /-- A short sequence, after the escape character. -/
  | escape
  /-- A short sequence, after its first blank or sign. -/
  | escapeTail
  /-- A control sequence, up to its last letter. -/
  | control
  /-- The head of a device string, after its first letter. -/
  | deviceStart
  /-- The head of a device string, among its parameters. -/
  | deviceParams
  /-- The head of a device string, after its first blank or sign. -/
  | deviceTail
  /-- A string up to its terminator. -/
  | string
  /-- A command to the system, up to a bell. -/
  | command
deriving DecidableEq, Repr

/-- Whether a character lies between two others. -/
def within (first last c : Char) : Bool :=
  first ≤ c && c ≤ last

/-- Whether a character ends a string: the string terminator is the byte 9C, as which it also
counts within the bytes of another character. -/
def endsString (c : Char) : Bool :=
  (String.utf8EncodeChar c).contains 0x9C

namespace Mode

/-- What is read after a character. -/
def next (m : Mode) (c : Char) : Mode :=
  if c = '\x1b' then escape
  else if c = '\x18' || c = '\x1a' then text
  else
    match m with
    | text => text
    | escape =>
      if within ' ' '/' c then escapeTail
      else if c = '[' then control
      else if c = ']' then command
      else if c = 'P' then deviceStart
      else if c = 'X' || c = '^' || c = '_' then string
      else if within '0' '~' c then text
      else escape
    | escapeTail => if within '0' '~' c then text else escapeTail
    | control => if within '@' '~' c then text else control
    | deviceStart =>
      if within ' ' '/' c then deviceTail
      else if within '0' '?' c then deviceParams
      else if within '@' '~' c then string
      else deviceStart
    | deviceParams =>
      if within ' ' '/' c then deviceTail
      else if within '<' '~' c then string
      else deviceParams
    | deviceTail => if within '0' '~' c then string else deviceTail
    | string => if endsString c then text else string
    | command => if c = '\x07' then text else command

/-- Whether a character is shown. -/
def shows (m : Mode) (c : Char) : Bool :=
  match m with
  | text => isVisible c
  | escape => isLayout c
  | escapeTail => isLayout c
  | control => isLayout c
  | _ => false

end Mode

/-- How far a text is read. -/
structure Progress where
  /-- What is being read, or was before a tab or a line break in it. -/
  mode : Mode := .text
  /-- Whether the last character was shown. -/
  shown : Bool := true

/-- Read a character. -/
def Progress.step (p : Progress) (c : Char) : Progress :=
  if p.shown && isVisible c then ⟨if c.toNat < 0x80 then p.mode else .text, true⟩
  else ⟨p.mode.next c, p.mode.shows c⟩

/-- The characters of a text that are shown. -/
def plainChars (p : Progress) : List Char → List Char
  | [] => []
  | c :: rest =>
    let p := p.step c
    if p.shown then c :: plainChars p rest else plainChars p rest

/-- A text without its control characters and sequences. -/
def plain (s : String) : String :=
  String.ofList (plainChars {} s.toList)

end FilterSql.Text.Terminal
