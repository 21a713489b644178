import FilterSql.Condition
import FilterSql.Proofs.Outcome

/-!
# What the builders of conditions give

Each builder of a condition succeeds for the values of one kind and the operators it knows, and
then gives one of a few fragments. The equations of this file say which, so that later proofs open
none of the builders.

## Main results

* `FilterSql.Condition.ofNullable_eq_ok_iff` and its likes: when a builder succeeds, and with which
  fragment.
-/

namespace FilterSql.Condition

open Fragment

variable {column : String} {op : Operator} {v : Value} {f : Fragment}

theorem ofNullable_eq_ok_iff :
    ofNullable column v = .ok f ↔
      ∃ set, v = .bool set ∧
        (sql column |>.push (if set then " IS NOT NULL" else " IS NULL")) = f := by
  cases v <;> simp [ofNullable, Value.truth?]

theorem ofBool_eq_ok_iff :
    ofBool column v = .ok f ↔
      ∃ b, v = .bool b ∧
        (sql (if b then "(" else "(NOT ") |>.push column |>.push ")") = f := by
  cases v <;> simp [ofBool, Value.truth?]

theorem ofNumeric_eq_ok_iff :
    ofNumeric column op v = .ok f ↔
      ∃ sign, op.sign = .ok sign ∧
        ((∃ n, v = .int n ∧ compare column sign (.int n) = f) ∨
          ∃ x, v = .float x ∧ compare column sign (.float x) = f) := by
  cases v <;> simp [ofNumeric, map_eq_ok_iff]

theorem ofAbsoluteDate_eq_ok_iff :
    ofAbsoluteDate column op v = .ok f ↔
      ∃ sign t, op.sign = .ok sign ∧ v = .timestamp t ∧
        compare column sign (.timestamp t) = f := by
  cases v <;> simp [ofAbsoluteDate, map_eq_ok_iff]

theorem ofCollection_eq_ok_iff :
    ofCollection column op v = .ok f ↔
      (v = .collection [] ∧
        (if op.negative then
          sql "(" |>.push column |>.push " IS DISTINCT FROM " |>.bind .null |>.push ")"
        else sql "(" |>.push column |>.push " IN (" |>.bind .null |>.push ")" |>.push ")") = f) ∨
      ∃ id ids, v = .collection (id :: ids) ∧
        (sql "(" |>.push column |>.push (if op.negative then " NOT IN " else " IN ")
          |>.bindList ((id :: ids).map paramOfId) |>.push ")") = f := by
  cases v with
  | collection ids =>
    cases ids with
    | nil => by_cases hneg : op.negative = true <;> simp [ofCollection, hneg]
    | cons id ids => simp [ofCollection, and_assoc]
  | _ => simp [ofCollection]

theorem ofString_eq_ok_iff :
    ofString column op v = .ok f ↔
      ∃ s, v = .text s ∧
        ((op.keyword = "contains" ∧
          (sql "(" |>.push column |>.push " ILIKE '%' || " |>.bind (.text s)
            |>.push " || '%'" |>.push ")") = f) ∨
        (op.keyword = "starts with" ∧
          (sql "(" |>.push column |>.push " ILIKE " |>.bind (.text s)
            |>.push " || '%'" |>.push ")") = f) ∨
        (op.keyword ≠ "contains" ∧ op.keyword ≠ "starts with" ∧ ∃ sign, op.sign = .ok sign ∧
          let comparison :=
            sql "(" |>.push column |>.push " " |>.push sign |>.push " " |>.bind (.text s)
          (if sign = "=" ∧ s.isEmpty then
              comparison.push " OR " |>.push column |>.push " IS NULL" |>.push ")"
            else comparison.push ")") = f)) := by
  cases v with
  | text s =>
    by_cases hcontains : op.keyword = "contains"
    · simp [ofString, hcontains]
    · by_cases hstarts : op.keyword = "starts with"
      · simp [ofString, hstarts]
      · simp [ofString, hcontains, hstarts, map_eq_ok_iff]
  | _ => simp [ofString]

theorem ofWordCount_eq_ok_iff :
    ofWordCount column op v = .ok f ↔
      ∃ words, wordCount? v = some words ∧
        ((startsWith op "more than" = true ∧
          compare column "~" (.text (patternMoreThan words)) = f) ∨
        (startsWith op "more than" = false ∧ startsWith op "fewer than" = true ∧
          (if words ≤ 0 then sql "(" |>.push column |>.push " IS NULL)"
            else compare column "~" (.text (patternFewerThan words))) = f)) := by
  rw [ofWordCount]
  cases wordCount? v with
  | none => simp
  | some words =>
    by_cases hmore : startsWith op "more than" = true
    · simp [hmore]
    · by_cases hfewer : startsWith op "fewer than" = true
      · by_cases hwords : words ≤ 0 <;> simp [hmore, hfewer, hwords]
      · simp [hmore, hfewer]

theorem ofRelativeDate_eq_ok_iff {now : Timestamp} :
    ofRelativeDate column op v now = .ok f ↔
      ∃ d first last, v = .relativeDate d ∧ d.range now = some (first, last) ∧
        (sql "(" |>.push column
          |>.push (if op.negative then " NOT BETWEEN " else " BETWEEN ")
          |>.bind (.timestamp first) |>.push " AND "
          |>.bind (.timestamp last) |>.push ")") = f := by
  cases v with
  | relativeDate d =>
    rw [ofRelativeDate]
    rcases hrange : d.range now with _ | ⟨first, last⟩ <;> simp [ofRange, hrange, and_assoc]
  | _ => simp [ofRelativeDate]

end FilterSql.Condition
