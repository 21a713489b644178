import FilterSql.Proofs.Condition.Builders
import FilterSql.Proofs.Sql.Selection

/-!
# The tests that conditions write

Where an operator searches a column for a text, asks for equality or a difference, for chosen
elements or for a range of time, its condition is a test of the column that is written out. The
equations of this file say which test, so that later proofs can ask what a condition selects.

## Main definitions

* `FilterSql.Condition.member`: the comparison with chosen elements, of which there may be none.
* `FilterSql.Condition.equality`: the comparison with a text, where the empty one stands for nulls.

## Main results

* `FilterSql.Condition.ofCollection_eq_write` and its likes: the tests that the builders write.
-/

namespace FilterSql.Condition

open Fragment

variable {op : Operator}

/-- A test that admits no nulls is its comparison between parentheses, behind the column. -/
theorem write_strict (column : String) (c : Comparison) :
    c.strict.write column = (sql "(" |>.push column) ++ c.write ++ sql ")" := by
  simp [Comparison.strict, Test.write, Test.nulls, parenthesize_eq_append, push, append_assoc]

/-! ### Equality -/

/-- The sign of an operator for equality, or for a difference. -/
def equalitySign (negated : Bool) : String :=
  if negated then "<>" else "="

/-- What a comparison has before its closing parenthesis. -/
theorem push_equalitySign (f : Fragment) (negated : Bool) (p : Param) :
    (f |>.push " " |>.push (equalitySign negated) |>.push " " |>.bind p) =
      f ++ (Comparison.equals negated p).write := by
  rw [← push_append, ← push_append]
  cases negated <;> exact append_assoc _ _ _

theorem compare_eq_write (column : String) (negated : Bool) (p : Param) :
    compare column (equalitySign negated) p =
      (Comparison.equals negated p).strict.write column := by
  rw [write_strict, compare, push_equalitySign]
  rfl

theorem ofNumeric_int_eq_write (column : String) {negated : Bool}
    (hop : op.sign = .ok (equalitySign negated)) (n : Int) :
    ofNumeric column op (.int n) =
      .ok ((Comparison.equals negated (.int n)).strict.write column) :=
  ofNumeric_eq_ok_iff.2 ⟨_, hop, .inl ⟨n, rfl, compare_eq_write column negated _⟩⟩

theorem ofNumeric_float_eq_write (column : String) {negated : Bool}
    (hop : op.sign = .ok (equalitySign negated)) (x : Float) :
    ofNumeric column op (.float x) =
      .ok ((Comparison.equals negated (.float x)).strict.write column) :=
  ofNumeric_eq_ok_iff.2 ⟨_, hop, .inr ⟨x, rfl, compare_eq_write column negated _⟩⟩

/-- The test for equality with a text, or for a difference. Nulls are equal to the empty text. -/
def equality (negated : Bool) (s : String) : Test where
  comparison := .equals negated (.text s)
  orNull := !negated && s.isEmpty

theorem ofString_eq_write (column : String) {negated : Bool}
    (hop : op.sign = .ok (equalitySign negated)) (hcontains : op.keyword ≠ "contains")
    (hstarts : op.keyword ≠ "starts with") (s : String) :
    ofString column op (.text s) = .ok ((equality negated s).write column) := by
  refine ofString_eq_ok_iff.2 ⟨s, rfl, .inr (.inr ⟨hcontains, hstarts, _, hop, ?_⟩)⟩
  have horNull : equalitySign negated = "=" ∧ s.isEmpty = true ↔ (equality negated s).orNull := by
    cases negated <;> simp [equalitySign, equality]
  simp only [push_equalitySign, horNull, Test.write, Test.nulls, parenthesize_eq_append]
  split
  · simp [equality, push, sql_append, append_assoc]
  · simp [equality, push, append_assoc]

/-! ### Chosen elements and ranges of time -/

/-- The comparison of a column with some parameters that it shall be among, or not be among. Without
any, a null takes their place. -/
def member (negated : Bool) : List Param → Comparison
  | [] => if negated then .distinct .null else .among false .null []
  | p :: ps => .among negated p ps

theorem ofCollection_eq_write (column : String) (op : Operator) (ids : List ChoiceId) :
    ofCollection column op (.collection ids) =
      .ok ((member op.negative (ids.map paramOfId)).strict.write column) := by
  rw [write_strict, ofCollection_eq_ok_iff]
  cases ids with
  | nil =>
    refine .inl ⟨rfl, ?_⟩
    cases op.negative with
    | false =>
      have hlist : sql " IN (" = sql " IN " ++ sql "(" := sql_append " IN " "("
      simp only [Bool.false_eq_true, if_false, List.map_nil, member, Comparison.write, push, hlist,
        Fragment.bind, bindList, parenthesize_eq_append, append_assoc]
      rfl
    | true =>
      simp [member, Comparison.write, push, Fragment.bind, append_assoc]
  | cons id ids =>
    refine .inr ⟨id, ids, rfl, ?_⟩
    simp [Comparison.write, member, push, bindList, append_assoc]

theorem ofRelativeDate_eq_write (column : String) (op : Operator) {d : RelativeDate}
    {now first last : Timestamp} (h : d.range now = some (first, last)) :
    ofRelativeDate column op (.relativeDate d) now =
      .ok ((Comparison.between op.negative (.timestamp first) (.timestamp last)).strict.write
        column) := by
  rw [write_strict, ofRelativeDate_eq_ok_iff]
  refine ⟨d, first, last, rfl, h, ?_⟩
  simp [Comparison.write, push, Fragment.bind, append_assoc]

/-! ### Searches -/

theorem build_of_contains (column : String) (htype : op.type = .string)
    (hop : op.keyword = "contains") (s : String) (now : Timestamp) :
    build column op (.text s) now = .ok ((Comparison.search true s).strict.write column) := by
  simp only [build, htype]
  rw [write_strict]
  refine ofString_eq_ok_iff.2 ⟨s, rfl, .inl ⟨hop, ?_⟩⟩
  simp [Comparison.write, push, Fragment.bind, append_assoc]

theorem build_of_startsWith (column : String) (htype : op.type = .string)
    (hop : op.keyword = "starts with") (s : String) (now : Timestamp) :
    build column op (.text s) now = .ok ((Comparison.search false s).strict.write column) := by
  simp only [build, htype]
  rw [write_strict]
  refine ofString_eq_ok_iff.2 ⟨s, rfl, .inr (.inl ⟨hop, ?_⟩)⟩
  simp [Comparison.write, push, Fragment.bind, append_assoc]

end FilterSql.Condition
