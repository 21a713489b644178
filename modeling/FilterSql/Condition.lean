import FilterSql.Decimal.Truncate
import FilterSql.Operator
import FilterSql.Sql.Builder
import FilterSql.Value.Reader

/-!
# Conditions

The condition that a clause puts on a column, for each value type of its operator. The column is
written as it is and values are bound as parameters. Every condition stands in parentheses but the
one for whether a column is set.

## Main definitions

* `FilterSql.Condition.ofWordCount`: the pattern for a number of words.
* `FilterSql.Condition.build`: the condition of a column, an operator and a value.
-/

namespace FilterSql.Condition

open Fragment

/-- The cause of a value that does not fit its operator. -/
def mismatch (type : ValueType) (value : Value) : Cause :=
  .invalidValue type (.unexpected value)

/-- Whether a column is set. -/
def ofNullable (column : String) (value : Value) : Except Cause Fragment :=
  match value.truth? with
  | some set => .ok (sql column |>.push (if set then " IS NOT NULL" else " IS NULL"))
  | none => .error (mismatch .nullable value)

/-- Whether a boolean column is true, or whether it is false. -/
def ofBool (column : String) (value : Value) : Except Cause Fragment :=
  match value.truth? with
  | some b => .ok (sql (if b then "(" else "(NOT ") |>.push column |>.push ")")
  | none => .error (mismatch .bool value)

/-- A comparison of a column with a parameter. -/
def compare (column sign : String) (p : Param) : Fragment :=
  sql "(" |>.push column |>.push " " |>.push sign |>.push " " |>.bind p |>.push ")"

/-- A comparison of a column with a number. -/
def ofNumeric (column : String) (op : Operator) (value : Value) : Except Cause Fragment :=
  match value with
  | .int n => op.sign.map (compare column · (.int n))
  | .float x => op.sign.map (compare column · (.float x))
  | _ => .error (mismatch .numeric value)

/-- A comparison of a column with a point in time. -/
def ofAbsoluteDate (column : String) (op : Operator) (value : Value) : Except Cause Fragment :=
  match value with
  | .timestamp t => op.sign.map (compare column · (.timestamp t))
  | _ => .error (mismatch .absoluteDate value)

/-- The identifier of a chosen element as a parameter. -/
def paramOfId : ChoiceId → Param
  | .int n => .int n
  | .text s => .text s

/-- Whether a column is among the chosen elements. Where none is chosen, a null is bound in their
place: nothing is in a list of a null, and everything that is no null is distinct from it. -/
def ofCollection (column : String) (op : Operator) (value : Value) : Except Cause Fragment :=
  match value with
  | .collection [] =>
    if op.negative then
      .ok (sql "(" |>.push column |>.push " IS DISTINCT FROM " |>.bind .null |>.push ")")
    else
      .ok (sql "(" |>.push column |>.push " IN (" |>.bind .null |>.push ")" |>.push ")")
  | .collection ids =>
    .ok (sql "(" |>.push column |>.push (if op.negative then " NOT IN " else " IN ")
      |>.bindList (ids.map paramOfId) |>.push ")")
  | _ => .error (mismatch .collection value)

/-- Whether a column contains a text, starts with it, or compares with it. A column that is not set
counts as equal to the empty text. -/
def ofString (column : String) (op : Operator) (value : Value) : Except Cause Fragment :=
  match value with
  | .text s =>
    let start := sql "(" |>.push column
    if op.keyword = "contains" then
      .ok (start.push " ILIKE '%' || " |>.bind (.text s) |>.push " || '%'" |>.push ")")
    else if op.keyword = "starts with" then
      .ok (start.push " ILIKE " |>.bind (.text s) |>.push " || '%'" |>.push ")")
    else
      op.sign.map fun sign =>
        let comparison := start.push " " |>.push sign |>.push " " |>.bind (.text s)
        if sign = "=" ∧ s.isEmpty then
          comparison.push " OR " |>.push column |>.push " IS NULL" |>.push ")"
        else comparison.push ")"
  | _ => .error (mismatch .string value)

/-- The number of words that a value stands for. -/
def wordCount? : Value → Option Int
  | .int n => some n
  | .float x => some (Decimal.truncate x)
  | _ => none

/-- The pattern of the texts that have more than a number of words. -/
def patternMoreThan (words : Int) : String :=
  "(\\S+\\s+)\x7b" ++ Text.integer (max words 0) ++ "\x7d\\S+$"

/-- The pattern of the texts that have fewer than a positive number of words. -/
def patternFewerThan (words : Int) : String :=
  "^(\\S+\\s+)\x7b0," ++ Text.integer (words - 1) ++ "\x7d\\S*$"

/-- Whether the keyword of an operator starts with some words. -/
def startsWith (op : Operator) (words : String) : Bool :=
  words.toList.isPrefixOf op.keyword.toList

/-- Whether a column has more, or fewer, than a number of words. No text has fewer than no words, so
only a column that is not set does. -/
def ofWordCount (column : String) (op : Operator) (value : Value) : Except Cause Fragment :=
  match wordCount? value with
  | none => .error (mismatch .stringLength value)
  | some words =>
    if startsWith op "more than" then
      .ok (compare column "~" (.text (patternMoreThan words)))
    else if startsWith op "fewer than" then
      if words ≤ 0 then .ok (sql "(" |>.push column |>.push " IS NULL)")
      else .ok (compare column "~" (.text (patternFewerThan words)))
    else .error (.unsupportedOperator op.name)

/-- Whether a column lies in a range of time, which has to be there. -/
def ofRange (column : String) (op : Operator) :
    Option (Timestamp × Timestamp) → Except Cause Fragment
  | some (first, last) =>
    .ok (sql "(" |>.push column |>.push (if op.negative then " NOT BETWEEN " else " BETWEEN ")
      |>.bind (.timestamp first) |>.push " AND " |>.bind (.timestamp last) |>.push ")")
  | none => .error .dateOverflow

/-- Whether a column lies in the range of a relative date. -/
def ofRelativeDate (column : String) (op : Operator) (value : Value) (now : Timestamp) :
    Except Cause Fragment :=
  match value with
  | .relativeDate d => ofRange column op (d.range now)
  | _ => .error (mismatch .relativeDate value)

/-- The condition of a column, an operator and a value, with relative dates taken from `now`. -/
def build (column : String) (op : Operator) (value : Value) (now : Timestamp) :
    Except Cause Fragment :=
  match op.type with
  | .nullable => ofNullable column value
  | .absoluteDate => ofAbsoluteDate column op value
  | .collection => ofCollection column op value
  | .bool => ofBool column value
  | .numeric => ofNumeric column op value
  | .string => ofString column op value
  | .stringLength => ofWordCount column op value
  | .relativeDate => ofRelativeDate column op value now
  | .singleChoice => .error (.unknownValueType op.type)

end FilterSql.Condition
