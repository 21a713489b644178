import FilterSql.Text.Digits

/-!
# Excerpts

A message about a place in a text shows the line with the place, and marks from it on under the
line. Lines are counted from one and columns in characters; the end of a text counts as one more
character of its last line.

## Main definitions

* `FilterSql.Text.byteCount`: the size of a text.
* `FilterSql.Text.Spot`, `FilterSql.Text.spotAt`: a line and a column of a text.
* `FilterSql.Text.excerpt`: a line with marks.
-/

namespace FilterSql.Text

/-- The bytes of a list of characters. -/
def byteCount (s : List Char) : Nat :=
  s.foldr (fun c n => c.utf8Size + n) 0

/-- A place in a text: the lines before it, and the characters before it on its line. -/
structure Spot where
  /-- The lines before the place. -/
  line : Nat
  /-- The characters before the place on its line. -/
  column : Nat
deriving DecidableEq, Repr

/-- The place after the first `index` bytes of a text, whose start has `chars` characters in `bytes`
bytes before it on its line. Before a character of several bytes the column counts bytes. -/
def spotFrom (line chars bytes : Nat) : Nat → List Char → Spot
  | _, [] => ⟨line, chars⟩
  | index, c :: rest =>
    if index < c.utf8Size then ⟨line, if c.utf8Size = 1 then chars else bytes⟩
    else if c = '\n' && !rest.isEmpty then spotFrom (line + 1) 0 0 (index - c.utf8Size) rest
    else spotFrom line (chars + 1) (bytes + c.utf8Size) (index - c.utf8Size) rest

/-- The place after the first `index` bytes of a text. -/
def spotAt (text : String) (index : Nat) : Spot :=
  spotFrom 0 0 0 index text.toList

/-- A character in a row. -/
def row (c : Char) (n : Nat) : String :=
  String.ofList (List.replicate n c)

/-- The line of a place, with its number before it and marks for `size` bytes under it. There is at
least one mark, and no mark for a byte after the line. -/
def excerpt (text : String) (spot : Spot) (size : Nat) : List String :=
  let number := integer (spot.line + 1)
  let margin := row ' ' number.length
  let content := ((text.splitOn "\n")[spot.line]?).getD ""
  let marks := max 1 (min size (content.utf8ByteSize - spot.column))
  [margin ++ " |", number ++ " | " ++ content,
    margin ++ " | " ++ row ' ' spot.column ++ row '^' marks]

end FilterSql.Text
