import FilterSql.Filter.Decode
import FilterSql.Json.Dialect
import FilterSql.Json.Reader

/-!
# Reading filters

A filter is read from its JSON text: an object with the members `logical_op` and `filter_clauses`,
or a list of the two. What is wrong with the text itself is reported at its place. What is wrong
with a value is reported at the place where its enclosing list or object has been read on to: past
the value, past the comma or the bracket after it.

Values of unknown members are passed over by a simpler reader, which does not mind the depth of
nesting, the size of numbers or the pairing of surrogates. It stops before a control character in a
quoted text, where the reader of values stops after it.

## Main definitions

* `FilterSql.Json.skipValue`: the reader that passes over a value.
* `FilterSql.Filter.read`: the filter that a text holds.
-/

namespace FilterSql

namespace Json

open Text

/-- Pass over the power of ten of a number, after its letter. -/
private def skipPower (s : List Char) : Except Fault (List Char) :=
  let digits := match s with
    | '+' :: rest => rest
    | '-' :: rest => rest
    | _ => s
  if startsWithDigit digits then .ok (digits.dropWhile isDigit)
  else .error (.next .invalidNumber digits)

/-- Pass over a number after its whole digits. -/
private def skipNumberTail (s : List Char) : Except Fault (List Char) :=
  match s with
  | 'e' :: rest => skipPower rest
  | 'E' :: rest => skipPower rest
  | '.' :: rest =>
    if startsWithDigit rest then
      match rest.dropWhile isDigit with
      | 'e' :: rest => skipPower rest
      | 'E' :: rest => skipPower rest
      | rest => .ok rest
    else .error (.next .invalidNumber rest)
  | _ => .ok s

/-- Pass over a number after its sign. -/
private def skipNumber (s : List Char) : Except Fault (List Char) :=
  match s with
  | '0' :: rest =>
    if startsWithDigit rest then .error (.next .invalidNumber rest) else skipNumberTail rest
  | _ =>
    if startsWithDigit s then skipNumberTail (s.dropWhile isDigit)
    else .error (.next .invalidNumber s)

/-- Pass over a quoted text after its opening quote. A control character is reported at the place
before it. -/
private def skipString : List Char → Except Fault (List Char)
  | [] => .error (.here .endInString [])
  | '"' :: rest => .ok rest
  | ['\\'] => .error (.here .endInString [])
  | '\\' :: 'u' :: rest =>
    match rest with
    | a :: b :: c :: d :: rest' =>
      if (codeUnit? a b c d).isSome then skipString rest' else .error (codeUnitFault rest)
    | _ => .error (codeUnitFault rest)
  | '\\' :: e :: rest =>
    if (shortEscape? e).isSome then skipString rest
    else .error (.next .invalidEscape (e :: rest))
  | c :: rest =>
    if c.toNat < 0x20 then .error (.here .controlCharacter (c :: rest)) else skipString rest

/-- Pass over a key and its colon. -/
private def skipKey (s : List Char) : Except Fault (List Char) :=
  match skipBlanks s with
  | [] => .error (.here .endInObject [])
  | '"' :: rest => do readColon (← skipString rest)
  | rest => .error (.next .keyNotString rest)

mutual

/-- Pass over a value, after blanks. -/
def skipValue : Nat → List Char → Except Fault (List Char)
  | 0, s => .error (.here .endInValue s)
  | measure + 1, s =>
    match skipBlanks s with
    | [] => .error (.here .endInValue [])
    | 'n' :: rest => readWord "ull".toList rest
    | 't' :: rest => readWord "rue".toList rest
    | 'f' :: rest => readWord "alse".toList rest
    | '-' :: rest => skipNumber rest
    | '"' :: rest => skipString rest
    | '[' :: rest => skipItems measure true rest
    | '\x7b' :: rest => skipMembers measure true rest
    | c :: rest =>
      if isDigit c then skipNumber (c :: rest) else .error (.next .expectedValue (c :: rest))

/-- Pass over the values of a list from the next one on, and its closing bracket. -/
def skipItems : Nat → Bool → List Char → Except Fault (List Char)
  | 0, _, s => .error (.here .endInValue s)
  | measure + 1, first, s =>
    match skipBlanks s with
    | [] => .error (.here .endInList [])
    | ']' :: rest => .ok rest
    | c :: rest => do
      if first then skipItems measure false (← skipValue measure (c :: rest))
      else if c = ',' then skipItems measure false (← skipValue measure rest)
      else .error (.next .expectedListEnd (c :: rest))

/-- Pass over the members of an object from the next one on, and its closing brace. -/
def skipMembers : Nat → Bool → List Char → Except Fault (List Char)
  | 0, _, s => .error (.here .endInValue s)
  | measure + 1, first, s =>
    match skipBlanks s with
    | [] => .error (.here .endInObject [])
    | '\x7d' :: rest => .ok rest
    | c :: rest => do
      if first then
        skipMembers measure false (← skipValue measure (← skipKey (c :: rest)))
      else if c = ',' then
        skipMembers measure false (← skipValue measure (← skipKey rest))
      else .error (.next .expectedObjectEnd (c :: rest))

end

end Json

namespace Filter

open Json

/-- A problem met while reading a filter: one at a place, or one that has to be given its place by
the list or object around it. -/
inductive Trouble where
  /-- A problem at a place. -/
  | placed (fault : Fault)
  /-- A problem without a place, and the text not yet read. -/
  | unplaced (problem : Problem) (rest : List Char)

/-- Give a problem without a place the one reached in the text. -/
def Trouble.place : Trouble → Fault
  | placed fault => fault
  | unplaced problem rest => .here problem rest

/-- A reader of text whose faults have their places. -/
def located {α : Type} (r : Except Fault α) : Except Trouble α :=
  r.mapError .placed

/-- Where a list is read on to after a value of it was wrong. -/
def afterItem (s : List Char) : List Char :=
  match skipBlanks s with
  | ']' :: rest => rest
  | ',' :: rest => skipBlanks rest
  | rest => rest

/-- Where an object is read on to after a value of it was wrong. -/
def afterMember (s : List Char) : List Char :=
  match skipBlanks s with
  | '\x7d' :: rest => rest
  | rest => rest

/-- The problem that the next value, which is read on to, has the wrong type. -/
def wrongType (expected : String) (s : List Char) : Fault :=
  let found (x : Json) (rest : List Char) : Fault := .here (Json.wrongType x expected) rest
  match s with
  | '[' :: _ => found (.array []) s
  | '\x7b' :: _ => found (.object []) s
  | _ =>
    match readValue (measureOf s) maxDepth s with
    | .ok (x, rest) => found x rest
    | .error fault => fault

/-- The text of a connective, which may be `null`. -/
def readConnective (s : List Char) : Except Fault (Option String × List Char) :=
  match skipBlanks s with
  | [] => .error (.here .endInValue [])
  | 'n' :: rest => (readWord "ull".toList rest).map (none, ·)
  | '"' :: rest => (readString rest).map fun (name, rest) => (some name, rest)
  | rest => .error (wrongType "a string" rest)

/-- The nodes of a list from the next one on, up to its closing bracket. -/
def readNodes (depth : Nat) : Nat → Bool → List Char →
    Except Trouble (List Node × List Char)
  | 0, _, s => .error (.placed (.here .endInValue s))
  | measure + 1, first, s => do
    let (more, s) ← located (nextItem first s)
    if more then
      let (x, s) ← located (readValue (measureOf s) depth s)
      match Node.ofJson? x with
      | none => .error (.unplaced .noNode (afterItem s))
      | some n =>
        let (ns, s) ← readNodes depth measure false s
        return (n :: ns, s)
    else return ([], s.drop 1)

/-- A list of nodes. -/
def readChildren (s : List Char) : Except Fault (List Node × List Char) :=
  match skipBlanks s with
  | [] => .error (.here .endInValue [])
  | '[' :: rest => (readNodes (maxDepth - 2) (measureOf rest) true rest).mapError Trouble.place
  | rest => .error (wrongType "a sequence" rest)

/-- The members of a filter read so far. -/
structure Members where
  /-- The name of the connective, if that member was read. -/
  connective : Option (Option String) := none
  /-- The nodes, if that member was read. -/
  children : Option (List Node) := none

/-- The filter of the members that were read. -/
def Members.toFilter (ms : Members) : Except Problem Filter :=
  match ms.children with
  | some children => .ok ⟨ms.connective.getD none, children⟩
  | none => .error (.misfit (.missingField "filter_clauses"))

/-- The problem that a member of a filter stands there twice, before its second value. -/
def repeated (key : String) (s : List Char) : Trouble :=
  .unplaced (.misfit (.duplicateField key)) (afterMember s)

/-- The members of a filter from the next one on, up to its closing brace. -/
def readMembers : Nat → Bool → Members → List Char → Except Trouble (Members × List Char)
  | 0, _, _, s => .error (.placed (.here .endInValue s))
  | measure + 1, first, ms, s => do
    let (key, s) ← located (nextKey first s)
    match key with
    | none => return (ms, s)
    | some key =>
      if key = "logical_op" then
        if ms.connective.isSome then .error (repeated key s)
        else
          let (name, s) ← located (do readConnective (← readColon s))
          readMembers measure false { ms with connective := some name } s
      else if key = "filter_clauses" then
        if ms.children.isSome then .error (repeated key s)
        else
          let (children, s) ← located (do readChildren (← readColon s))
          readMembers measure false { ms with children := some children } s
      else
        let s ← located (do skipValue (measureOf s) (← readColon s))
        readMembers measure false ms s

/-- A filter written as an object, after its opening brace. -/
def readObject (s : List Char) : Except Trouble (Filter × List Char) := do
  let (ms, s) ← readMembers (measureOf s) true {} s
  match ms.toFilter with
  | .ok f => return (f, s.drop 1)
  | .error problem => .error (.unplaced problem (s.drop 1))

/-- The problem that a list holds too few fields. -/
def tooShort (length : Nat) (s : List Char) : Trouble :=
  .unplaced (.misfit (.invalidLength length "struct Filter with 2 elements")) (afterItem s)

/-- A filter written as a list, after its opening bracket. -/
def readList (s : List Char) : Except Trouble (Filter × List Char) := do
  let (more, s) ← located (nextItem true s)
  if more then
    let (connective, s) ← located (readConnective s)
    let (more, s) ← located (nextItem false s)
    if more then
      let (children, s) ← located (readChildren s)
      match skipBlanks s with
      | ']' :: rest => return (⟨connective, children⟩, rest)
      | [] => .error (.placed (.here .endInList []))
      | ',' :: rest =>
        match skipBlanks rest with
        | ']' :: rest => .error (.placed (.next .trailingComma (']' :: rest)))
        | rest => .error (.placed (.next .trailingCharacters rest))
      | rest => .error (.placed (.next .trailingCharacters rest))
    else .error (tooShort 1 s)
  else .error (tooShort 1 s)

/-- A filter, after blanks. -/
def readFilter (s : List Char) : Except Fault (Filter × List Char) :=
  match skipBlanks s with
  | [] => .error (.here .endInValue [])
  | '\x7b' :: rest => (readObject rest).mapError Trouble.place
  | '[' :: rest => (readList rest).mapError Trouble.place
  | rest => .error (wrongType "struct Filter" rest)

/-- The filter that a list of characters holds. -/
def readChars (s : List Char) : Except Fault Filter := do
  let (f, rest) ← readFilter s
  readEnd rest
  return f

/-- The filter that a text holds. -/
def read (text : String) : Except Json.Error Filter :=
  (readChars text.toList).mapError (Fault.toError text.toList)

end Filter

end FilterSql
