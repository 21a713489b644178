import FilterSql.Proofs.Pattern.Basic
import FilterSql.Proofs.Text.Digits

/-!
# Reading patterns

A pattern is written as `^` and `$` for the ends of the text, `\s` and `\S` for a blank and a
visible character, groups in parentheses, and `*`, `+`, `{m}`, `{m,}` or `{m,n}` behind a piece for
how often it is repeated. An end of the text cannot be repeated, nor can a piece that is repeated
already. Whatever else PostgreSQL reads as a pattern is not read here.

The text is read from left to right. What is read so far keeps the pieces of the open groups, with
the last piece first, since what follows a piece may repeat it.

## Main definitions

* `FilterSql.Pattern.Draft`: a pattern as far as it is read.
* `FilterSql.Pattern.Draft.read`: the next character.
* `FilterSql.Pattern.ofText?`: the pattern that a text writes.

## Main results

* `FilterSql.Pattern.Draft.foldlM_read_count`: what a number between braces says.
* `FilterSql.Pattern.ofText?_count`: a pattern with such a number in it.
-/

namespace FilterSql.Pattern

open Text

/-- What the next character of a pattern is read as. -/
inductive Mode where
  /-- A new piece, or how often the last one is repeated. -/
  | piece
  /-- The letter of a class of characters. -/
  | letter
  /-- A digit of a number of times, which is the greatest one if the least one is known. -/
  | count (least : Option Nat) (digits : List Char)

/-- A pattern as far as it is read. -/
structure Draft where
  mode : Mode := .piece
  /-- The pieces of the innermost open group, the last one first. -/
  pieces : List Pattern := []
  /-- The pieces before each open group, the innermost group first. -/
  around : List (List Pattern) := []

/-- A pattern can be repeated. -/
def repeatable : Pattern → Bool
  | start | finish | repeated .. => false
  | character _ | empty | followedBy .. => true

/-- The number that some digits write, if there are any. -/
def number? (digits : List Char) : Option Nat :=
  if digits.isEmpty then none else some (natOfDigits digits)

theorem number?_digitsOfNat (n : Nat) : number? (digitsOfNat n) = some n := by
  obtain ⟨c, digits, hdigits, -⟩ := exists_digitsOfNat_eq_cons n
  have hne : ¬ (digitsOfNat n).isEmpty = true := by simp [hdigits]
  rw [number?, if_neg hne, natOfDigits_digitsOfNat]

namespace Draft

/-- A further piece. -/
def add (d : Draft) (p : Pattern) : Draft :=
  { d with mode := .piece, pieces := p :: d.pieces }

/-- The last piece is repeated. -/
def repeatLast (d : Draft) (least : Nat) (most : Option Nat) : Option Draft :=
  match d.pieces with
  | p :: pieces =>
    if p.repeatable && most.all (least ≤ ·) then
      some ({ d with pieces }.add (p.repeated least most))
    else none
  | [] => none

/-- A group is opened. -/
def openGroup (d : Draft) : Draft :=
  { around := d.pieces :: d.around }

/-- The innermost open group is closed and becomes a piece. -/
def closeGroup (d : Draft) : Option Draft :=
  match d.around with
  | pieces :: around => some (add { pieces, around } (sequence d.pieces.reverse))
  | [] => none

def readPiece (d : Draft) : Char → Option Draft
  | '^' => some (d.add .start)
  | '$' => some (d.add .finish)
  | '\\' => some { d with mode := .letter }
  | '(' => some d.openGroup
  | ')' => d.closeGroup
  | '*' => d.repeatLast 0 none
  | '+' => d.repeatLast 1 none
  | '\x7b' => some { d with mode := .count none [] }
  | _ => none

def readLetter (d : Draft) : Char → Option Draft
  | 's' => some (d.add (.character true))
  | 'S' => some (d.add (.character false))
  | _ => none

def readCount (d : Draft) (least : Option Nat) (digits : List Char) (c : Char) : Option Draft :=
  if isDigit c then some { d with mode := .count least (digits ++ [c]) }
  else
    match least, c with
    | none, ',' => (number? digits).map fun n => { d with mode := .count n [] }
    | none, '\x7d' => number? digits >>= fun n => d.repeatLast n n
    | some least, '\x7d' => d.repeatLast least (number? digits)
    | _, _ => none

/-- A draft with the next character. -/
def read (d : Draft) (c : Char) : Option Draft :=
  match d.mode with
  | .piece => d.readPiece c
  | .letter => d.readLetter c
  | .count least digits => d.readCount least digits c

/-- The pattern of a draft that is complete. -/
def toPattern? (d : Draft) : Option Pattern :=
  match d.mode, d.around with
  | .piece, [] => some (sequence d.pieces.reverse)
  | _, _ => none

/-- Digits are read one after another. -/
theorem foldlM_read_digits (d : Draft) (least : Option Nat) {s : List Char}
    (hs : ∀ c ∈ s, isDigit c = true) (digits : List Char) :
    s.foldlM read { d with mode := .count least digits } =
      some { d with mode := .count least (digits ++ s) } := by
  induction s generalizing digits with
  | nil => rw [List.append_nil]; rfl
  | cons c s ih =>
    obtain ⟨hc, hs⟩ := List.forall_mem_cons.1 hs
    have hread : read { d with mode := .count least digits } c =
        some { d with mode := .count least (digits ++ [c]) } := if_pos hc
    rw [List.foldlM_cons, hread]
    calc s.foldlM read { d with mode := .count least (digits ++ [c]) }
        = some { d with mode := .count least (digits ++ [c] ++ s) } := ih hs _
      _ = some { d with mode := .count least (digits ++ c :: s) } := by
        rw [List.append_assoc, List.singleton_append]

/-- At the end of a number the last piece is repeated as often as it says. -/
theorem read_brace (d : Draft) (least : Option Nat) (n : Nat) :
    read { d with mode := .count least (digitsOfNat n) } '\x7d' =
      d.repeatLast (least.getD n) (some n) := by
  have hnumber := number?_digitsOfNat n
  cases least with
  | none =>
    calc read { d with mode := .count none (digitsOfNat n) } '\x7d'
        = number? (digitsOfNat n) >>= fun n => d.repeatLast n (some n) := rfl
      _ = d.repeatLast n (some n) := by rw [hnumber]; rfl
  | some least =>
    calc read { d with mode := .count (some least) (digitsOfNat n) } '\x7d'
        = d.repeatLast least (number? (digitsOfNat n)) := rfl
      _ = d.repeatLast least (some n) := by rw [hnumber]

/-- A number is read as how often the last piece is repeated. -/
theorem foldlM_read_count (d : Draft) (least : Option Nat) (n : Nat) (rest : List Char) :
    (digitsOfNat n ++ '\x7d' :: rest).foldlM read { d with mode := .count least [] } =
      d.repeatLast (least.getD n) (some n) >>= (rest.foldlM read ·) := by
  rw [List.foldlM_append, foldlM_read_digits d least fun _ => isDigit_of_mem_digitsOfNat]
  calc ('\x7d' :: rest).foldlM read { d with mode := .count least (digitsOfNat n) }
      = read { d with mode := .count least (digitsOfNat n) } '\x7d' >>= (rest.foldlM read ·) :=
        List.foldlM_cons
    _ = d.repeatLast (least.getD n) (some n) >>= (rest.foldlM read ·) := by rw [read_brace]

end Draft

/-- The pattern that a text writes. -/
def ofText? (text : String) : Option Pattern :=
  text.toList.foldlM Draft.read {} >>= Draft.toPattern?

/-- A text with a number in it, which is how often the piece in front of it is repeated. -/
theorem ofText?_count {opening closing : String} {rest : List Char} {d : Draft}
    {least : Option Nat} (n : Nat)
    (hopening : opening.toList.foldlM Draft.read {} = some { d with mode := .count least [] })
    (hclosing : closing.toList = '\x7d' :: rest) :
    ofText? (opening ++ integer n ++ closing) =
      (d.repeatLast (least.getD n) (some n) >>= (rest.foldlM Draft.read ·)) >>=
        Draft.toPattern? := by
  have htext : (opening ++ integer n ++ closing).toList =
      opening.toList ++ (digitsOfNat n ++ '\x7d' :: rest) := by
    simp [integer, integerChars, hclosing]
  have hcount := Draft.foldlM_read_count d least n rest
  rw [ofText?, htext, List.foldlM_append, hopening, ← hcount]
  rfl

end FilterSql.Pattern
