import FilterSql.Proofs.Logic.Truth
import FilterSql.Proofs.Pattern.Wildcard
import FilterSql.Proofs.Sql.Program

/-!
# The rows that conditions select

The conditions of clauses compare a column with values: for equality, membership in a list,
distinctness, a range of time, or a text to search for. This file says how these comparisons are
written and what they mean. They are three-valued: a comparison with a null is unknown, and a row is
selected only where its condition is true. Only distinctness takes a null for a value like others.

How the values of a column compare is a matter of the database, as are the letters that differ in
their case alone, so the meaning is taken over every database. What a condition says is settled by
its text and its parameters, whatever the column is.

## Main definitions

* `FilterSql.Database`: the values of columns and how they compare.
* `FilterSql.Comparison`, `FilterSql.Comparison.truth`: a comparison with a column, and its meaning.
* `FilterSql.Test`, `FilterSql.Test.write`: a comparison that may also admit nulls, as a condition.
* `FilterSql.Selects`: the values of a column that a condition selects.

## Main results

* `FilterSql.Test.write_injective`: no condition can be read in two ways.
* `FilterSql.selects_write_iff`: a condition selects where its test is true.
-/

namespace FilterSql

open Fragment

/-! ### Databases -/

/-- A parameter is a null, with or without a type. -/
def Param.IsNull (p : Param) : Prop :=
  p = .null ∨ ∃ type, p = .typedNull type

/-- The values of columns in a database, and how they compare. -/
structure Database where
  /-- The values that are not null. -/
  Datum : Type
  /-- The value of a parameter, if it is not null. -/
  ofParam : Param → Option Datum
  /-- Two values are equal. -/
  equal : Datum → Datum → Bool
  /-- A value does not come after another one. -/
  atMost : Datum → Datum → Bool
  /-- The characters of a text. -/
  chars? : Datum → Option (List Char)
  /-- The character that stands for all that differ from one in their case alone. -/
  fold : Char → Char
  /-- Just the parameters for nulls have no value. -/
  ofParam_eq_none_iff : ∀ p, ofParam p = none ↔ p.IsNull
  /-- The value of a text has its characters. -/
  chars?_ofParam_text : ∀ s, (ofParam (.text s)).bind chars? = some s.toList
  /-- The signs of search patterns do not differ in their case alone. -/
  fold_signs : fold '%' ≠ fold '_' ∧ fold '%' ≠ fold '\\'

namespace Database

/-- The database whose values are the parameters themselves, with the order of whole numbers. -/
def ofParams : Database where
  Datum := Param
  ofParam
    | .null | .typedNull _ => none
    | p => some p
  equal := Param.same
  atMost
    | .int m, .int n => m ≤ n
    | _, _ => false
  chars?
    | .text s => some s.toList
    | _ => none
  fold := Char.toLower
  ofParam_eq_none_iff p := by cases p <;> simp [Param.IsNull]
  chars?_ofParam_text _ := rfl
  fold_signs := by decide

variable (db : Database)

theorem ofParam_ne_none {p : Param} (h : ¬ p.IsNull) : db.ofParam p ≠ none :=
  mt (db.ofParam_eq_none_iff p).1 h

@[simp] theorem ofParam_null : db.ofParam .null = none :=
  (db.ofParam_eq_none_iff _).2 (.inl rfl)

/-- A comparison of two values, which cannot be told if one of them is a null. -/
def compare (r : db.Datum → db.Datum → Bool) : Option db.Datum → Option db.Datum → Truth
  | some a, some b => .ofBool (r a b)
  | _, _ => .unknown

theorem compare_ne_unknown (r : db.Datum → db.Datum → Bool) {a b : Option db.Datum}
    (ha : a ≠ none) (hb : b ≠ none) : db.compare r a b ≠ .unknown := by
  obtain ⟨d, rfl⟩ := Option.ne_none_iff_exists'.1 ha
  obtain ⟨e, rfl⟩ := Option.ne_none_iff_exists'.1 hb
  exact Truth.ofBool_ne_unknown _

@[simp] theorem compare_none_left (r : db.Datum → db.Datum → Bool) (b : Option db.Datum) :
    db.compare r none b = .unknown := rfl

@[simp] theorem compare_none_right (r : db.Datum → db.Datum → Bool) (a : Option db.Datum) :
    db.compare r a none = .unknown := by
  cases a <;> rfl

/-- Whether a value is distinct from another one, where a null is distinct from all but a null. -/
def distinct : Option db.Datum → Option db.Datum → Truth
  | some a, some b => .ofBool !(db.equal a b)
  | none, none => .false
  | _, _ => .true

/-- Whether a text fits a search pattern. What is no text, or no pattern, cannot be told. -/
def fits (pattern : List Char) (value : Option db.Datum) : Truth :=
  match value.bind db.chars?, Wildcard.read? pattern with
  | some s, some ps => .ofBool (Wildcard.accepts db.fold ps s)
  | _, _ => .unknown

theorem fits_eq_true_iff {pattern : List Char} {ps : List Wildcard} {d : db.Datum} {s : List Char}
    (hpattern : Wildcard.read? pattern = some ps) (hd : db.chars? d = some s) :
    db.fits pattern (some d) = .true ↔ Wildcard.accepts db.fold ps s = true := by
  rw [fits, Option.bind_some, hd, hpattern]
  exact Truth.ofBool_eq_true_iff

/-- Each text is a value. -/
theorem exists_chars?_eq (s : List Char) : ∃ d, db.chars? d = some s := by
  have htext := db.chars?_ofParam_text (String.ofList s)
  rw [String.toList_ofList] at htext
  obtain ⟨d, -, hd⟩ := Option.bind_eq_some_iff.1 htext
  exact ⟨d, hd⟩

end Database

/-! ### Comparisons -/

/-- A comparison of a column with values. -/
inductive Comparison where
  /-- The column equals a value, or differs from it. -/
  | equals (negated : Bool) (p : Param)
  /-- The column is among some values, or among none of them. -/
  | among (negated : Bool) (p : Param) (ps : List Param)
  /-- The column is distinct from a value. -/
  | distinct (p : Param)
  /-- The column lies in a range, its ends included, or outside of it. -/
  | between (negated : Bool) (first last : Param)
  /-- The column has a text at its start or anywhere, whatever the case of their letters. -/
  | search (anywhere : Bool) (text : String)

namespace Comparison

/-- A comparison as it is written behind its column. -/
def write : Comparison → Fragment
  | equals negated p => sql (if negated then " <> " else " = ") |>.bind p
  | among negated p ps => sql (if negated then " NOT IN " else " IN ") |>.bindList (p :: ps)
  | distinct p => sql " IS DISTINCT FROM " |>.bind p
  | between negated first last =>
    sql (if negated then " NOT BETWEEN " else " BETWEEN ")
      |>.bind first |>.push " AND " |>.bind last
  | search anywhere text =>
    sql (if anywhere then " ILIKE '%' || " else " ILIKE ") |>.bind (.text text) |>.push " || '%'"

/-- The truth of a comparison, or of its negation. -/
def signed (negated : Bool) (t : Truth) : Truth :=
  if negated then t.not else t

/-- The truth of a comparison for a value of its column; none is a null. -/
def truth (db : Database) (value : Option db.Datum) : Comparison → Truth
  | equals negated p => signed negated (db.compare db.equal value (db.ofParam p))
  | among negated p ps =>
    signed negated (.any ((p :: ps).map fun q => db.compare db.equal value (db.ofParam q)))
  | distinct p => db.distinct value (db.ofParam p)
  | between negated first last =>
    signed negated ((db.compare db.atMost (db.ofParam first) value).and
      (db.compare db.atMost value (db.ofParam last)))
  | search anywhere text =>
    db.fits ((if anywhere then ['%'] else []) ++ text.toList ++ ['%']) value

end Comparison

/-- A comparison, which may admit nulls besides. -/
@[ext] structure Test where
  comparison : Comparison
  /-- Nulls are admitted. -/
  orNull : Bool := false

/-- A test that admits no nulls besides. -/
def Comparison.strict (c : Comparison) : Test where
  comparison := c

namespace Test

/-- The admission of nulls as it is written behind a comparison. -/
def nulls (column : String) (t : Test) : Fragment :=
  if t.orNull then sql (" OR " ++ column ++ " IS NULL") else empty

/-- A test of a column as a condition. -/
def write (column : String) (t : Test) : Fragment :=
  (sql column ++ t.comparison.write ++ t.nulls column).parenthesize

/-- The truth of a test for a value of its column; none is a null. -/
def truth (db : Database) (value : Option db.Datum) (t : Test) : Truth :=
  if t.orNull then (t.comparison.truth db value).or (.ofBool value.isNone)
  else t.comparison.truth db value

@[simp] theorem truth_strict (db : Database) (value : Option db.Datum) (c : Comparison) :
    c.strict.truth db value = c.truth db value := rfl

theorem truth_eq_true_iff {db : Database} {value : Option db.Datum} {t : Test} :
    t.truth db value = .true ↔
      t.comparison.truth db value = .true ∨ t.orNull = true ∧ value = none := by
  rw [truth]
  split
  next h => simp [h, Truth.or_eq_true_iff, Truth.ofBool_eq_true_iff]
  next h => simp [h]

end Test

/-! ### What a condition says -/

namespace Comparison

/-- The parameters of a comparison. -/
def params : Comparison → List Param
  | equals _ p => [p]
  | among _ p ps => p :: ps
  | distinct p => [p]
  | between _ first last => [first, last]
  | search _ text => [.text text]

/-- A comparison as it is written behind its column, up to where its parameters begin. -/
def opening : Comparison → String
  | equals false _ => " = ?"
  | equals true _ => " <> ?"
  | among false .. => " IN ("
  | among true .. => " NOT IN ("
  | distinct _ => " IS DISTINCT FROM ?"
  | between false .. => " BETWEEN ?"
  | between true .. => " NOT BETWEEN ?"
  | search true _ => " ILIKE '%' || ?"
  | search false _ => " ILIKE ?"

/-- All openings. -/
def openings : List String :=
  [" = ?", " <> ?", " IN (", " NOT IN (", " IS DISTINCT FROM ?", " BETWEEN ?", " NOT BETWEEN ?",
    " ILIKE '%' || ?", " ILIKE ?"]

/-- The comparison of an opening and its parameters. -/
def ofOpening? : String → List Param → Option Comparison
  | " = ?", [p] => some (equals false p)
  | " <> ?", [p] => some (equals true p)
  | " IN (", p :: ps => some (among false p ps)
  | " NOT IN (", p :: ps => some (among true p ps)
  | " IS DISTINCT FROM ?", [p] => some (distinct p)
  | " BETWEEN ?", [first, last] => some (between false first last)
  | " NOT BETWEEN ?", [first, last] => some (between true first last)
  | " ILIKE '%' || ?", [.text s] => some (search true s)
  | " ILIKE ?", [.text s] => some (search false s)
  | _, _ => none

variable {c c' : Comparison}

theorem ofOpening?_opening (c : Comparison) : ofOpening? c.opening c.params = some c := by
  rcases c with ⟨_ | _, _⟩ | ⟨_ | _, _⟩ | _ | ⟨_ | _, _⟩ | ⟨_ | _, _⟩ <;> rfl

theorem opening_mem (c : Comparison) : c.opening ∈ openings := by
  rcases c with ⟨_ | _, _⟩ | ⟨_ | _, _⟩ | _ | ⟨_ | _, _⟩ | ⟨_ | _, _⟩ <;> simp [opening, openings]

/-- No opening begins with another one. -/
theorem openings_prefix_free {a b : String} (ha : a ∈ openings) (hb : b ∈ openings)
    (h : a.toList <+: b.toList) : a = b := by
  have hall : (openings.all fun a => openings.all fun b =>
      !(a.toList.isPrefixOf b.toList) || a == b) = true := by decide +kernel
  have hab := List.all_eq_true.1 (List.all_eq_true.1 hall a ha) b hb
  rw [List.isPrefixOf_iff_prefix.2 h] at hab
  simpa using hab

theorem params_write (c : Comparison) : c.write.params = c.params := by
  cases c <;> simp [write, params]

/-- A comparison begins with its opening. -/
theorem exists_text_write (c : Comparison) : ∃ rest, c.write.text = c.opening ++ rest := by
  have happend {f : Fragment} {s : String} (g : Fragment) (h : ∃ rest, f.text = s ++ rest) :
      ∃ rest, (f ++ g).text = s ++ rest := by
    obtain ⟨rest, h⟩ := h
    exact ⟨rest ++ g.text, by rw [text_append, h, String.append_assoc]⟩
  have hbind (operator : String) (p : Param) :
      ∃ rest, ((sql operator).bind p).text = operator ++ "?" ++ rest :=
    ⟨_, text_bind _ p⟩
  have hlist (operator : String) (ps : List Param) :
      ∃ rest, ((sql operator).bindList ps).text = operator ++ "(" ++ rest := by
    refine ⟨(separated "," "" "" ps).text ++ ")", ?_⟩
    rw [bindList, text_append, parenthesize, text_wrap, String.append_assoc, String.append_assoc]
    rfl
  cases c with
  | equals negated p => cases negated <;> exact hbind _ p
  | among negated p ps => cases negated <;> exact hlist _ (p :: ps)
  | distinct p => exact hbind _ p
  | between negated first last =>
    cases negated <;> exact happend _ (happend _ (hbind _ first))
  | search anywhere text =>
    cases anywhere <;> exact happend _ (hbind _ (.text text))

/-- A comparison is settled by its text, whatever follows, and its parameters. -/
theorem eq_of_text_append {s s' : String} (htext : c.write.text ++ s = c'.write.text ++ s')
    (hparams : c.write.params = c'.write.params) : c = c' := by
  obtain ⟨rest, hrest⟩ := c.exists_text_write
  obtain ⟨rest', hrest'⟩ := c'.exists_text_write
  have hopening : c.opening = c'.opening := by
    have hchars : c.opening.toList ++ (rest ++ s).toList =
        c'.opening.toList ++ (rest' ++ s').toList := by
      rw [← String.toList_append, ← String.toList_append, ← String.append_assoc,
        ← String.append_assoc, ← hrest, ← hrest', htext]
    have hbegins := List.prefix_append c.opening.toList (rest ++ s).toList
    rw [hchars] at hbegins
    rcases List.prefix_or_prefix_of_prefix hbegins (List.prefix_append _ _) with h | h
    · exact openings_prefix_free c.opening_mem c'.opening_mem h
    · exact (openings_prefix_free c'.opening_mem c.opening_mem h).symm
  rw [params_write, params_write] at hparams
  have hread := c.ofOpening?_opening
  rw [hopening, hparams, c'.ofOpening?_opening] at hread
  exact (Option.some.inj hread).symm

end Comparison

namespace Test

variable {column : String} {s t : Test}

theorem text_write (t : Test) (column : String) :
    (t.write column).text =
      "(" ++ (column ++ (t.comparison.write.text ++ (t.nulls column).text)) ++ ")" := by
  simp [write, parenthesize, String.append_assoc]

theorem params_write (t : Test) (column : String) :
    (t.write column).params = t.comparison.write.params := by
  cases h : t.orNull <;> simp [write, parenthesize, nulls, h]

/-- That nulls are admitted shows in the text. -/
theorem orNull_eq (column : String) (t : Test) :
    t.orNull = !(t.nulls column).text.isEmpty := by
  cases h : t.orNull <;> simp [nulls, h]

/-- No condition can be read in two ways. -/
theorem write_injective (h : s.write column = t.write column) : s = t := by
  have htext : s.comparison.write.text ++ (s.nulls column).text =
      t.comparison.write.text ++ (t.nulls column).text := by
    have hwritten := congrArg Fragment.text h
    rwa [text_write, text_write, String.append_left_inj, String.append_right_inj,
      String.append_right_inj] at hwritten
  have hparams : s.comparison.write.params = t.comparison.write.params := by
    rw [← params_write s column, h, params_write]
  have hcomparison : s.comparison = t.comparison := Comparison.eq_of_text_append htext hparams
  rw [hcomparison, String.append_right_inj] at htext
  refine Test.ext hcomparison ?_
  rw [s.orNull_eq column, htext, ← t.orNull_eq column]

end Test

/-- A condition on a column selects a value of it. -/
def Selects (db : Database) (column : String) (f : Fragment) (value : Option db.Datum) : Prop :=
  ∃ t : Test, f = t.write column ∧ t.truth db value = .true

/-- A condition selects where its test is true. -/
theorem selects_write_iff {db : Database} {column : String} {t : Test} {value : Option db.Datum} :
    Selects db column (t.write column) value ↔ t.truth db value = .true := by
  constructor
  · rintro ⟨t', hwrite, htruth⟩
    rwa [Test.write_injective hwrite]
  · exact fun htruth => ⟨t, rfl, htruth⟩

end FilterSql
