/-!
# Letter case

Names of operators and logical connectives are compared without regard to the case of the
letters `A` to `Z`; all other characters are compared as they stand.

## Main definitions

* `FilterSql.Text.lower`: a text with its capital letters `A` to `Z` made small.
* `FilterSql.Text.sameIgnoringCase`: equality of texts up to the case of those letters.
-/

namespace FilterSql.Text

/-- A list of characters with its capital letters `A` to `Z` made small. -/
def lowerChars (s : List Char) : List Char :=
  s.map Char.toLower

/-- A text with its capital letters `A` to `Z` made small. -/
def lower (s : String) : String :=
  String.ofList (lowerChars s.toList)

/-- Equality of texts up to the case of the letters `A` to `Z`. -/
def sameIgnoringCase (s t : String) : Bool :=
  lower s == lower t

@[simp] theorem toList_lower (s : String) : (lower s).toList = lowerChars s.toList :=
  String.toList_ofList

theorem sameIgnoringCase_iff {s t : String} :
    sameIgnoringCase s t = true ↔ lower s = lower t := by
  simp [sameIgnoringCase]

end FilterSql.Text
