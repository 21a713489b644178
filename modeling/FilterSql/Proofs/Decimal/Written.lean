import FilterSql.Decimal.Style
import FilterSql.Proofs.Text.Blank

/-!
# The characters of written numbers

A number is written without blanks, whatever its style is. In a style that keeps the point, such as
that of JSON, it has a character that no whole number has: a point or the letter of a power of ten,
or else a letter of the words for infinity and for no number.

## Main results

* `FilterSql.Decimal.Style.noBlank_write`: a written number has no blanks.
* `FilterSql.Decimal.Style.exists_mark_write`: a number written with a point is not taken for a
  whole number.
-/

namespace FilterSql.Decimal.Style

open Text

variable {style : Style} {digits : List Char}

/-! ### Blanks -/

theorem noBlank_positional (h : NoBlank digits) (style : Style) (exponent : Int) :
    NoBlank (style.positional digits exponent) := by
  have hzeros (n : Nat) : NoBlank (List.replicate n '0') := noBlank_replicate rfl n
  cases exponent with
  | ofNat zeros =>
    refine (h.append (hzeros zeros)).append ?_
    split
    · exact (noBlank_nil.cons rfl).cons rfl
    · exact noBlank_nil
  | negSucc places =>
    have hpadded : NoBlank (padLeft '0' (places + 1 + 1) digits) := (hzeros _).append h
    exact (hpadded.take _).append ((hpadded.drop _).cons rfl)

theorem noBlank_scientific (h : NoBlank digits) (style : Style) (exponent : Int) :
    NoBlank (style.scientific digits exponent) := by
  have hfraction : NoBlank
      (if (digits.drop 1).isEmpty then [] else '.' :: digits.drop 1) := by
    split
    · exact noBlank_nil
    · exact (h.drop 1).cons rfl
  have hsign {p : Prop} [Decidable p] : NoBlank (if p then ['+'] else []) := by
    split
    · exact noBlank_nil.cons rfl
    · exact noBlank_nil
  exact ((((h.take 1).append hfraction).append (noBlank_nil.cons rfl)).append hsign).append
    (noBlank_integerChars _)

theorem noBlank_writeMagnitude (style : Style) (v : Magnitude) :
    NoBlank (style.writeMagnitude v) := by
  rw [writeMagnitude]
  split
  · exact noBlank_positional (noBlank_digitsOfNat _) _ _
  · exact noBlank_scientific (noBlank_digitsOfNat _) _ _

/-- A number is written without blanks. -/
theorem noBlank_write (style : Style) (x : Float) : NoBlank (style.write x).toList := by
  rw [write]
  split
  · decide
  · split <;> decide
  · rw [String.toList_ofList]
    refine NoBlank.append ?_ (noBlank_writeMagnitude style _)
    split
    · exact noBlank_nil.cons rfl
    · exact noBlank_nil

/-! ### Marks of numbers that may not be whole -/

/-- The characters that a whole number does not have. -/
def IsMark (c : Char) : Prop :=
  isDigit c = false ∧ c ≠ '+' ∧ c ≠ '-'

instance (c : Char) : Decidable (IsMark c) := inferInstanceAs (Decidable (_ ∧ _))

theorem exists_mark_positional (h : style.keepsPoint = true) (digits : List Char)
    (exponent : Int) : ∃ c ∈ style.positional digits exponent, IsMark c := by
  refine ⟨'.', ?_, by decide⟩
  cases exponent with
  | ofNat zeros => simp [positional, h]
  | negSucc places => simp [positional]

theorem exists_mark_scientific (style : Style) (digits : List Char) (exponent : Int) :
    ∃ c ∈ style.scientific digits exponent, IsMark c :=
  ⟨'e', by simp [scientific], by decide⟩

/-- A number written with a point has a character that no whole number has. -/
theorem exists_mark_write (h : style.keepsPoint = true) (x : Float) :
    ∃ c ∈ (style.write x).toList, IsMark c := by
  rw [write]
  split
  · exact ⟨'N', by decide⟩
  · exact ⟨'i', by split <;> decide⟩
  next negative v _ =>
    have hmagnitude : ∃ c ∈ style.writeMagnitude v, IsMark c := by
      rw [writeMagnitude]
      split
      · exact exists_mark_positional h _ _
      · exact exists_mark_scientific style _ _
    obtain ⟨c, hc, hmark⟩ := hmagnitude
    rw [String.toList_ofList]
    exact ⟨c, List.mem_append_right _ hc, hmark⟩

end FilterSql.Decimal.Style
