/-!
# Replacing a slot in a text

Templates mark their slots by fixed words such as `value` in braces. `Text.replace` writes a text
in the place of every occurrence of such a word, from left to right and without looking at what it
has written.

## Main definitions

* `FilterSql.Text.replaceChars`: replacement on characters.
* `FilterSql.Text.replace`: replacement on texts.
-/

namespace FilterSql.Text

/-- Write `value` for each occurrence of `slot`; the next `skip` characters belong to an occurrence
that is already replaced. -/
private def replaceFrom (slot value : List Char) : Nat → List Char → List Char
  | _, [] => []
  | skip + 1, _ :: rest => replaceFrom slot value skip rest
  | 0, c :: rest =>
    if slot.isPrefixOf (c :: rest) then
      value ++ replaceFrom slot value (slot.length - 1) rest
    else
      c :: replaceFrom slot value 0 rest

/-- Write `value` in the place of each occurrence of the nonempty word `slot`. -/
def replaceChars (slot value s : List Char) : List Char :=
  replaceFrom slot value 0 s

/-- Write `value` in the place of each occurrence of the nonempty word `slot`. -/
def replace (slot value s : String) : String :=
  String.ofList (replaceChars slot.toList value.toList s.toList)

end FilterSql.Text
