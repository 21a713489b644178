import FilterSql.Toml.Number
import FilterSql.Toml.Line

/-!
# Tables of a TOML document

A document fills its tables by assignments to dotted keys, under headers that name a table or one
more element of a list of tables. No key is assigned twice, and each table is written in one way
only: by its header, by dotted keys of one table, or as a value between braces.

Values and keys know the stretch of the text in which they stand. A table has one if it has a header
or braces of its own; it goes from there to the end of the last value that is assigned under it.

## Main definitions

* `FilterSql.Toml.Item`, `FilterSql.Toml.Table`: values and tables.
* `FilterSql.Toml.assign`: an assignment to a dotted key.
* `FilterSql.Toml.Document`: a document up to some line.
* `FilterSql.Toml.Document.openTable`, `FilterSql.Toml.Document.openElement`: the two headers.
-/

namespace FilterSql.Toml

/-- A stretch of a text, given by what follows its start and what follows its end. -/
structure Stretch where
  /-- The text from its start on. -/
  start : List Char
  /-- The text after its end. -/
  stop : List Char

/-- A part of a dotted key. -/
structure Key where
  /-- The key without quotes. -/
  name : String
  /-- Where it stands. -/
  stretch : Stretch

/-- How a table came to be. -/
inductive Origin where
  /-- It stands on the way to the table of a header. -/
  | implied
  /-- It has a header, or braces. -/
  | headed
  /-- It stands on the way to a dotted key. -/
  | dotted
deriving DecidableEq, Repr

/-- What a key of a table stands for. -/
inductive Item where
  /-- A value without parts. -/
  | scalar (x : Scalar) (stretch : Stretch)
  /-- A list. -/
  | array (items : List Item) (stretch : Stretch)
  /-- A table, which is not added to from outside if it stands between braces. -/
  | table (braced : Bool) (origin : Origin) (members : List (Key × Item))
      (stretch : Option Stretch)
  /-- A list of tables with headers. -/
  | elements (tables : List (List (Key × Item) × Stretch))

/-- The keys of a table with what they stand for. -/
abbrev Table := List (Key × Item)

namespace Item

/-- How messages name the kind of a value. -/
def kind : Item → String
  | scalar x _ => x.kind
  | array _ _ => "array"
  | table braced _ _ _ => if braced then "inline table" else "table"
  | elements _ => "array of tables"

/-- Where a value stands. -/
def stretch? : Item → Option Stretch
  | scalar _ s => some s
  | array _ s => some s
  | table _ _ _ s => s
  | elements tables =>
    match tables.head?, tables.getLast? with
    | some (_, first), some (_, last) => some ⟨first.start, last.stop⟩
    | _, _ => none

end Item

/-! ### Keys in messages -/

/-- A character of a key without quotes. -/
def isKeyChar (c : Char) : Bool :=
  Text.isDigit c || ('a' ≤ c && c ≤ 'z') || ('A' ≤ c && c ≤ 'Z') || c = '_' || c = '-'

/-- A character of a key between double quotes. -/
def escapeKeyChar (c : Char) : List Char :=
  if c = '\x08' then ['\\', 'b']
  else if c = '\t' then ['\\', 't']
  else if c = '\n' then ['\\', 'n']
  else if c = '\x0c' then ['\\', 'f']
  else if c = '\r' then ['\\', 'r']
  else if c = '"' then ['\\', '"']
  else if c = '\\' then ['\\', '\\']
  else if isPlain c then [c]
  else '\\' :: 'u' :: Text.padLeft '0' 4 ((Text.hexDigits c.toNat).map Char.toUpper)

/-- A key as it may be written: without quotes if that is possible, else between those quotes that
need no escapes. -/
def Key.written (key : Key) : String :=
  let s := key.name.toList
  if s.all isKeyChar && !s.isEmpty then key.name
  else if s.all fun c => isPlain c && c ≠ '"' && c ≠ '\\' then "\"" ++ key.name ++ "\""
  else if s.all fun c => isPlain c && c ≠ '\'' then "'" ++ key.name ++ "'"
  else "\"" ++ String.ofList (s.flatMap escapeKeyChar) ++ "\""

/-- The detail that a header gives a key twice. -/
def repeatedHeader (path : List Key) (key : Key) : Detail :=
  .repeatedKey key.written (some (path.map Key.written))

/-! ### Filling tables -/

namespace Table

/-- What a key stands for. -/
def find? (key : Key) (t : Table) : Option Item :=
  (List.find? (fun entry => entry.1.name == key.name) t).map (·.2)

/-- The table with a value in the place of the one with the same key, or at its end. -/
def set (key : Key) (x : Item) : Table → Table
  | [] => [(key, x)]
  | (k, old) :: rest =>
    if k.name = key.name then (k, x) :: rest else (k, old) :: set key x rest

/-- The table without a key. -/
def erase (key : Key) (t : Table) : Table :=
  t.filter fun entry => entry.1.name != key.name

end Table

/-- Who follows a path to a table. -/
inductive Follower where
  /-- A header. -/
  | header
  /-- A dotted key on a line. -/
  | line
  /-- A dotted key between braces. -/
  | braces
deriving DecidableEq, Repr

/-- Change the table that a path leads to, from a table on; `walked` is the path to that table.
Tables on the way are made if they are missing; in a list of tables the last one is on the way. -/
def descend (follower : Follower) (change : Option Origin → Table → Except Detail Table)
    (walked : List Key) : List Key → Option Origin → Table → Except Detail Table
  | [], origin, t => change origin t
  | key :: path, _, t =>
    let foreign (kind : String) : Except Detail Table :=
      .error (.extendsValue ((walked ++ [key]).map Key.written) kind)
    match t.find? key with
    | none => do
      let origin := if follower = .header then Origin.implied else .dotted
      let members ← descend follower change (walked ++ [key]) path (some origin) []
      return t.set key (.table (follower = .braces) origin members none)
    | some (.table braced origin members stretch) =>
      if braced && follower ≠ .braces then foreign "inline table"
      else if follower ≠ .header && origin == .headed then .error (.repeatedKey key.name none)
      else do
        let members ← descend follower change (walked ++ [key]) path (some origin) members
        return t.set key (.table braced origin members stretch)
    | some (.elements tables) =>
      match tables.getLast? with
      | some (last, stretch) => do
        let last ← descend follower change (walked ++ [key]) path (some .headed) last
        return t.set key (.elements (tables.dropLast ++ [(last, stretch)]))
      | none => foreign "array of tables"
    | some x => foreign x.kind

/-- Assign a value to a dotted key, given as a path and a last key, in the table with the path
`place`, if that is known. The table it goes to must have been made by dotted keys too, unless there
is no path. -/
def assign (follower : Follower) (place : Option (List Key)) (path : List Key) (key : Key)
    (x : Item) (t : Table) : Except Detail Table :=
  descend follower (fun origin members =>
    if path.isEmpty || origin == some .dotted then
      if (members.find? key).isSome then
        .error (.repeatedKey key.name (place.map (·.map Key.written)))
      else .ok (members ++ [(key, x)])
    else .error (.repeatedKey key.name none)) [] path none t

/-- A table that is being filled, and where it stands. -/
structure Section where
  /-- What is in it. -/
  members : Table
  /-- Where it stands. -/
  stretch : Stretch

/-- A document up to some line: the tables that are finished, and the one that is being filled. -/
structure Document where
  /-- The finished part. -/
  root : Section
  /-- The table that is being filled. -/
  current : Section
  /-- The path of that table and its last key; nothing for the table without a header. -/
  header : Option (List Key × Key)
  /-- Whether that table is an element of a list. -/
  isElement : Bool

namespace Document

/-- The document without lines, at the start of a text. -/
def empty (text : List Char) : Document :=
  let blank : Section := ⟨[], ⟨text, text⟩⟩
  ⟨blank, blank, none, false⟩

/-- The tables of a document with the current one put in its place. -/
def finish (d : Document) : Except Detail Section :=
  match d.header with
  | none => .ok d.current
  | some (path, key) => do
    let current := (d.current.members, d.current.stretch)
    let members ← descend .header (fun _ members =>
      match members.find? key with
      | none =>
        let x := if d.isElement then Item.elements [current]
          else .table false .headed current.1 (some current.2)
        .ok (members ++ [(key, x)])
      | some (.elements tables) =>
        if d.isElement then .ok (members.set key (.elements (tables ++ [current])))
        else .error (repeatedHeader path key)
      | some _ => .error (repeatedHeader path key)) [] path none d.root.members
    return ⟨members, d.root.stretch⟩

/-- What a table has that headers so far only implied; no other table is there twice. -/
def kept (path : List Key) (key : Key) (t : Table) : Except Detail Table :=
  match t.find? key with
  | none => .ok []
  | some (.table _ .implied members _) => .ok members
  | some _ => .error (repeatedHeader path key)

/-- The table that a path leads to, if it does. -/
def tableAt : List Key → Table → Table
  | [], t => t
  | key :: path, t =>
    match t.find? key with
    | some (.table _ _ members _) => tableAt path members
    | some (.elements tables) => tableAt path ((tables.getLast?.map (·.1)).getD [])
    | _ => []

/-- Begin the table of a header, which stands at `stretch`. A table that is implied by earlier
headers keeps what it has, and moves behind the tables before it. -/
def openTable (stretch : Stretch) (path : List Key) (key : Key) (d : Document) :
    Except Detail Document := do
  let root ← d.finish
  let members ← descend .header (fun _ members => do
    let _ ← kept path key members
    return members) [] path none root.members
  let current ← kept path key (tableAt path members)
  let members ← descend .header (fun _ members => .ok (members.erase key)) [] path none members
  return ⟨⟨members, root.stretch⟩, ⟨current, stretch⟩, some (path, key), false⟩

/-- Begin one more element of the list of tables of a header, which stands at `stretch`. -/
def openElement (stretch : Stretch) (path : List Key) (key : Key) (d : Document) :
    Except Detail Document := do
  let root ← d.finish
  let members ← descend .header (fun _ members =>
    match members.find? key with
    | none => .ok members
    | some (.elements _) => .ok members
    | some _ => .error (repeatedHeader path key)) [] path none root.members
  return ⟨⟨members, root.stretch⟩, ⟨[], stretch⟩, some (path, key), true⟩

/-- Assign a value to a dotted key of the current table. -/
def assign (path : List Key) (key : Key) (x : Item) (d : Document) : Except Detail Document := do
  let place := match d.header with
    | none => []
    | some (path, key) => path ++ [key]
  let members ← Toml.assign .line (some place) path key x d.current.members
  let stop := (x.stretch?.map (·.stop)).getD d.current.stretch.stop
  return { d with current := ⟨members, ⟨d.current.stretch.start, stop⟩⟩ }

end Document

end FilterSql.Toml
