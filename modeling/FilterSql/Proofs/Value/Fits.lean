import FilterSql.Proofs.Calendar.Reckoning
import FilterSql.Proofs.Outcome
import FilterSql.Value.Reader

/-!
# Values of a type

Reading and compiling know value types independently of each other: what is read under a type has
one of the forms of that type, and the builder of conditions for a type takes values of just these
forms. A boolean is what says whether a column is set, and a number of words is a number.

A value of the right form is not yet enough for a relative date, whose condition needs its range at
a moment. In the years 1 to 9999 there always is one, on the last day of the calendar there is none.

## Main definitions

* `FilterSql.Value.Fits`: the values of a type.
* `FilterSql.Value.HasRange`: the values that a condition can be built for at a moment.

## Main results

* `FilterSql.Value.fits_of_read`: what is read under a type is a value of it.
-/

namespace FilterSql.Value

/-- The values of a type. -/
inductive Fits : ValueType → Value → Prop
  | nullable (b : Bool) : Fits .nullable (.bool b)
  | bool (b : Bool) : Fits .bool (.bool b)
  | int (n : Int) : Fits .numeric (.int n)
  | float (x : Float) : Fits .numeric (.float x)
  | string (s : String) : Fits .string (.text s)
  | wordCount {v : Value} (h : Fits .numeric v) : Fits .stringLength v
  | collection (ids : List ChoiceId) : Fits .collection (.collection ids)
  | singleChoice (members : List (String × Json)) : Fits .singleChoice (.choice members)
  | relativeDate (d : RelativeDate) : Fits .relativeDate (.relativeDate d)
  | absoluteDate (t : Timestamp) : Fits .absoluteDate (.timestamp t)

/-- If a value is a relative date, it has a range at a moment. -/
def HasRange (v : Value) (now : Timestamp) : Prop :=
  ∀ d, v = .relativeDate d → ∃ range, d.range now = some range

/-- In the years 1 to 9999 every relative date has a range. -/
theorem hasRange_of_year {now : Timestamp} (hyear : 1 ≤ now.date.year ∧ now.date.year ≤ 9999)
    (v : Value) : v.HasRange now :=
  fun d _ => ⟨_, RelativeDate.range_eq_meaning hyear d⟩

variable {raw : Json} {v : Value}

/-! ### One reader after the other -/

private theorem fits_readText (h : readText raw = .ok v) : v.Fits .string := by
  cases raw <;> simp [readText] at h <;> subst h <;> constructor

private theorem fits_readCollection (h : readCollection raw = .ok v) : v.Fits .collection := by
  simp only [readCollection] at h
  split at h
  · cases h
    exact .collection _
  · cases h

private theorem fits_readChoiceMembers {members : List (String × Json)}
    (h : readChoiceMembers members = .ok v) : v.Fits .singleChoice := by
  rw [readChoiceMembers] at h
  split at h
  · cases h
    exact .singleChoice members
  · cases h

private theorem fits_readChoice (h : readChoice raw = .ok v) : v.Fits .singleChoice := by
  simp only [readChoice, mapError_eq_ok_iff] at h
  split at h
  · exact fits_readChoiceMembers h
  · split at h
    · exact fits_readChoiceMembers h
    · cases h
    · cases h
  · cases h

/-- A text that writes a number is read as one, whole or not. -/
private theorem fits_readNumeral {s : List Char} (h : readNumeral s = .ok v) : v.Fits .numeric := by
  rw [readNumeral] at h
  split at h
  · cases h
    exact .int 0
  · split at h
    · cases h
      exact .int _
    · split at h
      · split at h
        · cases h
          exact .float _
        · cases h
      · cases h

private theorem fits_readNumeric (h : readNumeric raw = .ok v) : v.Fits .numeric := by
  rw [readNumeric.eq_def] at h
  split at h
  · split at h
    · cases h
      exact .int _
    · cases h
      exact .float _
  · exact fits_readNumeral (mapError_eq_ok_iff.1 h)
  · cases h

private theorem fits_readRelativeDate (h : readRelativeDate raw = .ok v) :
    v.Fits .relativeDate := by
  rw [readRelativeDate] at h
  split at h
  · cases h
    exact .relativeDate _
  · cases h

private theorem fits_readTimestamp (h : readTimestamp raw = .ok v) : v.Fits .absoluteDate := by
  rw [readTimestamp] at h
  split at h
  · cases h
    exact .absoluteDate _
  · cases h

private theorem exists_of_readBool {type : ValueType} (h : readBool type raw = .ok v) :
    ∃ b, v = .bool b := by
  rw [readBool.eq_def] at h
  split at h
  · cases h
    exact ⟨_, rfl⟩
  · split at h
    · cases h
      exact ⟨_, rfl⟩
    · split at h
      · cases h
        exact ⟨_, rfl⟩
      · cases h
  · cases h

/-! ### All readers -/

/-- What is read under a type is a value of it. -/
theorem fits_of_read {type : ValueType} (h : read type raw = .ok v) : v.Fits type := by
  cases type with
  | nullable =>
    obtain ⟨b, rfl⟩ := exists_of_readBool h
    exact .nullable b
  | bool =>
    obtain ⟨b, rfl⟩ := exists_of_readBool h
    exact .bool b
  | numeric => exact fits_readNumeric h
  | string => exact fits_readText h
  | stringLength => exact .wordCount (fits_readNumeric h)
  | collection => exact fits_readCollection h
  | singleChoice => exact fits_readChoice h
  | relativeDate => exact fits_readRelativeDate h
  | absoluteDate => exact fits_readTimestamp h

end FilterSql.Value
