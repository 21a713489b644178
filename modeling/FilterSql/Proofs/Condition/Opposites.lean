import FilterSql.OperatorTable
import FilterSql.Proofs.Condition.Writing
import FilterSql.Proofs.Value.Fits

/-!
# Opposite operators

Some operators come in pairs that ask for the opposite of each other: whether a column is among
chosen elements, lies in a range of time, equals a number or a text. With the same value, just one
of the two conditions selects a value of the column. A null is selected by neither, except that it
counts as the empty text.

The three-valued logic of SQL could break this where no elements are chosen, and for columns that
are null: what is compared with a null is neither equal to it nor different from it. A relative date
has conditions only where it has a range, which it lacks at the ends of the calendar.

## Main definitions

* `FilterSql.Operator.Opposites`: two operators that ask for the opposite of each other.
* `FilterSql.Test.Complementary`: two tests just one of which selects a value that is no null.

## Main results

* `FilterSql.Test.complementary_of_signed`: a comparison and its negation are complementary.
* `FilterSql.Condition.opposites_select_complements`: so are the conditions of opposite operators.
-/

namespace FilterSql

/-! ### Opposites -/

namespace Operator

/-- An operator that has an opposite. Its name, or its mark, tells which of the two it is. -/
def Asks (negated : Bool) (op : Operator) : Prop :=
  match op.type with
  | .collection | .relativeDate => op.negative = negated
  | .numeric | .string => op.keyword = if negated then "is not" else "is"
  | _ => False

/-- Two operators that ask for the opposite of each other. -/
def Opposites (op op' : Operator) : Prop :=
  op.type = op'.type ∧ op.Asks false ∧ op'.Asks true

/-- The names and the value types of the standard operators that ask for the opposite of each
other. -/
def oppositeNames : List (String × String × ValueType) :=
  [("any of", "not any of", .collection), ("within", "outside of", .relativeDate),
    ("is", "is not", .numeric), ("is", "is not", .string)]

theorem exists_opposites_of_mem {names : String × String × ValueType}
    (h : names ∈ oppositeNames) :
    ∃ op op', OperatorTable.standard.resolve names.1 [names.2.2] = .ok op ∧
      OperatorTable.standard.resolve names.2.1 [names.2.2] = .ok op' ∧
      op.type = names.2.2 ∧ op.Opposites op' := by
  simp only [oppositeNames, List.mem_cons, List.not_mem_nil, or_false] at h
  rcases h with rfl | rfl | rfl | rfl
  · exact ⟨{ name := "any of", type := .collection },
      { name := "not any of", type := .collection, negative := true },
      rfl, rfl, rfl, rfl, rfl, rfl⟩
  · exact ⟨{ name := "within", type := .relativeDate },
      { name := "outside of", type := .relativeDate, negative := true },
      rfl, rfl, rfl, rfl, rfl, rfl⟩
  · exact ⟨{ name := "is", type := .numeric },
      { name := "is not", type := .numeric, negative := true },
      rfl, rfl, rfl, rfl, rfl, rfl⟩
  · exact ⟨{ name := "is", type := .string },
      { name := "is not", type := .string, negative := true },
      rfl, rfl, rfl, rfl, rfl, rfl⟩

variable {op : Operator} {negated : Bool}

namespace Asks

theorem type_eq (h : op.Asks negated) :
    op.type = .collection ∨ op.type = .relativeDate ∨ op.type = .numeric ∨ op.type = .string := by
  cases htype : op.type <;> simp [Asks, htype] at h ⊢

theorem negative_eq (h : op.Asks negated)
    (htype : op.type = .collection ∨ op.type = .relativeDate) : op.negative = negated := by
  rcases htype with htype | htype <;> simpa [Asks, htype] using h

theorem keyword_eq (h : op.Asks negated) (htype : op.type = .numeric ∨ op.type = .string) :
    op.keyword = if negated then "is not" else "is" := by
  rcases htype with htype | htype <;> simpa [Asks, htype] using h

/-- Numbers and texts are compared for equality or for a difference. -/
theorem sign_eq (h : op.Asks negated) (htype : op.type = .numeric ∨ op.type = .string) :
    op.sign = .ok (Condition.equalitySign negated) := by
  have hkeyword : keywordOf op.name = if negated then "is not" else "is" := h.keyword_eq htype
  rw [sign, signOf, hkeyword]
  cases negated <;> rfl

end Asks

end Operator

/-! ### Complements -/

namespace Test

/-- Two tests of which just one selects a value that is no null. A null may be selected by the first
one. -/
structure Complementary (t : Bool → Test) (null : Prop) : Prop where
  datum : ∀ (db : Database) (d : db.Datum),
    (t false).truth db (some d) = .true ↔ ¬ (t true).truth db (some d) = .true
  null : ∀ db : Database, (t false).truth db none = .true ↔ null
  negated : ∀ db : Database, ¬ (t true).truth db none = .true

theorem Complementary.congr {t : Bool → Test} {a b : Prop} (h : Complementary t a) (hab : a ↔ b) :
    Complementary t b :=
  ⟨h.datum, fun db => (h.null db).trans hab, h.negated⟩

open Comparison (signed)

/-- A comparison and its negation are complementary if they can be told for just the values that are
no nulls. -/
theorem complementary_of_signed {c : Bool → Comparison}
    (truth : (db : Database) → Option db.Datum → Truth)
    (hc : ∀ db value negated, (c negated).truth db value = signed negated (truth db value))
    (hdatum : ∀ db d, truth db (some d) ≠ .unknown) (hnull : ∀ db, truth db none = .unknown) :
    Complementary (fun negated => (c negated).strict) False where
  datum db d := by
    rw [truth_strict, truth_strict, hc, hc]
    exact Truth.eq_true_iff_not_ne_true (hdatum db d)
  null db := by
    rw [truth_strict, hc, hnull]
    decide
  negated db := by
    rw [truth_strict, hc, hnull]
    decide

variable {p q : Param} {ps : List Param}

theorem complementary_equals (hp : ¬ p.IsNull) :
    Complementary (fun negated => (Comparison.equals negated p).strict) False :=
  complementary_of_signed (fun db value => db.compare db.equal value (db.ofParam p))
    (fun _ _ _ => rfl)
    (fun db _ => db.compare_ne_unknown _ (Option.some_ne_none _) (db.ofParam_ne_none hp))
    (fun _ => rfl)

theorem complementary_among (hps : ∀ q ∈ p :: ps, ¬ q.IsNull) :
    Complementary (fun negated => (Comparison.among negated p ps).strict) False := by
  refine complementary_of_signed
    (fun db value => .any ((p :: ps).map fun q => db.compare db.equal value (db.ofParam q)))
    (fun _ _ _ => rfl) (fun db d => Truth.any_ne_unknown ?_)
    (fun db => Truth.any_eq_unknown_of_forall (by simp) ?_)
  · exact List.forall_mem_map.2 fun q hq =>
      db.compare_ne_unknown _ (Option.some_ne_none d) (db.ofParam_ne_none (hps q hq))
  · exact List.forall_mem_map.2 fun _ _ => rfl

theorem complementary_between (hp : ¬ p.IsNull) (hq : ¬ q.IsNull) :
    Complementary (fun negated => (Comparison.between negated p q).strict) False := by
  refine complementary_of_signed
    (fun db value => (db.compare db.atMost (db.ofParam p) value).and
      (db.compare db.atMost value (db.ofParam q)))
    (fun _ _ _ => rfl) (fun db d => Truth.and_ne_unknown ?_ ?_) fun db => ?_
  · exact db.compare_ne_unknown _ (db.ofParam_ne_none hp) (Option.some_ne_none d)
  · exact db.compare_ne_unknown _ (Option.some_ne_none d) (db.ofParam_ne_none hq)
  · rw [db.compare_none_left, db.compare_none_right]
    rfl

/-- Without chosen elements it cannot be told of anything whether it is among them, and everything
but a null is distinct from the null in their place. -/
theorem truth_member_nil (db : Database) (value : Option db.Datum) (negated : Bool) :
    (Condition.member negated []).truth db value =
      if negated then .ofBool value.isSome else .unknown := by
  cases negated with
  | false => simp [Condition.member, Comparison.truth, signed, Truth.any, Truth.or]
  | true =>
    cases value <;> simp [Condition.member, Comparison.truth, Database.distinct, Truth.ofBool]

theorem complementary_member_nil :
    Complementary (fun negated => (Condition.member negated []).strict) False := by
  refine ⟨fun db d => ?_, fun db => ?_, fun db => ?_⟩
  all_goals simp [truth_member_nil, Truth.ofBool]

theorem complementary_member (hps : ∀ q ∈ ps, ¬ q.IsNull) :
    Complementary (fun negated => (Condition.member negated ps).strict) False := by
  cases ps with
  | nil => exact complementary_member_nil
  | cons p ps => exact complementary_among hps

/-- The empty text is the one that nulls are equal to. -/
theorem complementary_equality (s : String) :
    Complementary (fun negated => Condition.equality negated s) (s = "") := by
  have hequals := complementary_equals (p := .text s) (by simp [Param.IsNull])
  have hequality (db : Database) (value : Option db.Datum) :
      (Condition.equality false s).truth db value = .true ↔
        (Comparison.equals false (.text s)).strict.truth db value = .true ∨
          s = "" ∧ value = none := by
    rw [truth_eq_true_iff]
    simp [Condition.equality, Comparison.strict, truth]
  refine ⟨fun db d => ?_, fun db => ?_, hequals.negated⟩
  · rw [hequality]
    exact (or_iff_left (by simp)).trans (hequals.datum db d)
  · rw [hequality, hequals.null db]
    simp

end Test

/-! ### The conditions of opposite operators -/

namespace Condition

variable {value : Value} {type : ValueType}

/-- For each value that opposite operators can take, their conditions are complementary tests. -/
theorem exists_complementary {now : Timestamp} (hvalue : value.Fits type)
    (hrange : value.HasRange now)
    (htype : type = .collection ∨ type = .relativeDate ∨ type = .numeric ∨ type = .string) :
    ∃ t : Bool → Test,
      (∀ column negated op, op.type = type → op.Asks negated →
        build column op value now = .ok ((t negated).write column)) ∧
      Test.Complementary t (type = .string ∧ value = .text "") := by
  cases hvalue with
  | int n =>
    have hn := Test.complementary_equals (p := .int n) (by simp [Param.IsNull])
    refine ⟨_, fun column negated op htype hasks => ?_, hn.congr (by simp)⟩
    simp only [build, htype]
    exact ofNumeric_int_eq_write column (hasks.sign_eq (.inl htype)) n
  | float x =>
    have hx := Test.complementary_equals (p := .float x) (by simp [Param.IsNull])
    refine ⟨_, fun column negated op htype hasks => ?_, hx.congr (by simp)⟩
    simp only [build, htype]
    exact ofNumeric_float_eq_write column (hasks.sign_eq (.inl htype)) x
  | string s =>
    have hs := Test.complementary_equality s
    refine ⟨_, fun column negated op htype hasks => ?_, hs.congr (by simp)⟩
    have hkeyword := hasks.keyword_eq (.inr htype)
    simp only [build, htype]
    refine ofString_eq_write column (hasks.sign_eq (.inr htype)) ?_ ?_ s
    · rw [hkeyword]
      cases negated <;> decide
    · rw [hkeyword]
      cases negated <;> decide
  | collection ids =>
    have hparams : ∀ p ∈ ids.map paramOfId, ¬ p.IsNull :=
      List.forall_mem_map.2 fun id _ => by cases id <;> simp [paramOfId, Param.IsNull]
    have hids := Test.complementary_member hparams
    refine ⟨_, fun column negated op htype hasks => ?_, hids.congr (by simp)⟩
    simp only [build, htype]
    rw [ofCollection_eq_write, hasks.negative_eq (.inl htype)]
  | relativeDate d =>
    obtain ⟨⟨first, last⟩, hbounds⟩ := hrange d rfl
    have hbetween := Test.complementary_between (p := .timestamp first) (q := .timestamp last)
      (by simp [Param.IsNull]) (by simp [Param.IsNull])
    refine ⟨_, fun column negated op htype hasks => ?_, hbetween.congr (by simp)⟩
    simp only [build, htype]
    rw [ofRelativeDate_eq_write column op hbounds, hasks.negative_eq (.inr htype)]
  | nullable | bool | wordCount | singleChoice | absoluteDate => simp at htype

/-- The standard operators for being among chosen elements or in a range of time, and for equality
of numbers and of texts, have opposites. For every value that opposite operators can take, the empty
collection included and a relative date wherever it has a range, a value of a column that is no null
is selected by just one of their two conditions. A null is selected by neither, except that equality
with the empty text selects it. -/
theorem opposites_select_complements (column : String) (now : Timestamp) :
    (∀ names ∈ Operator.oppositeNames, ∃ op op',
      OperatorTable.standard.resolve names.1 [names.2.2] = .ok op ∧
      OperatorTable.standard.resolve names.2.1 [names.2.2] = .ok op' ∧
      op.type = names.2.2 ∧ op.Opposites op') ∧
    ∀ op op' : Operator, op.Opposites op' → ∀ value : Value, value.Fits op.type →
      value.HasRange now → ∃ f g,
        build column op value now = .ok f ∧ build column op' value now = .ok g ∧ ∀ db : Database,
          (∀ d, Selects db column f (some d) ↔ ¬ Selects db column g (some d)) ∧
          (Selects db column f none ↔ op.type = .string ∧ value = .text "") ∧
          ¬ Selects db column g none := by
  refine ⟨fun _ => Operator.exists_opposites_of_mem, fun op op' hops value hvalue hrange => ?_⟩
  obtain ⟨htype, hop, hop'⟩ := hops
  obtain ⟨t, hbuild, ht⟩ := exists_complementary hvalue hrange hop.type_eq
  refine ⟨_, _, hbuild column false op rfl hop, hbuild column true op' htype.symm hop',
    fun db => ?_⟩
  simp only [selects_write_iff]
  exact ⟨ht.datum db, ht.null db, ht.negated db⟩

/-- A value is not among no chosen elements, and a null is neither that nor the opposite. But a null
equals the empty text. What lies in a day does not lie outside of it. -/
theorem opposites_select_complements_of_nothing :
    let among : Operator := { name := "any of", type := .collection }
    let notAmong : Operator := { name := "not any of", type := .collection, negative := true }
    let equal : Operator := { name := "is", type := .string }
    let different : Operator := { name := "is not", type := .string, negative := true }
    let within : Operator := { name := "within", type := .relativeDate }
    let outside : Operator := { name := "outside of", type := .relativeDate, negative := true }
    let db := Database.ofParams
    let now : Timestamp := ⟨0⟩
    (among.Opposites notAmong ∧ (Value.collection []).Fits .collection ∧
      (Value.collection []).HasRange now) ∧
    (equal.Opposites different ∧ (Value.text "").Fits .string ∧ (Value.text "").HasRange now) ∧
    (within.Opposites outside ∧ (Value.relativeDate .today).Fits .relativeDate ∧
      (Value.relativeDate .today).HasRange now) ∧
    (∃ f g, build "flavour" among (.collection []) now = .ok f ∧
      build "flavour" notAmong (.collection []) now = .ok g ∧
      ¬ Selects db "flavour" f (some (.int 3)) ∧ Selects db "flavour" g (some (.int 3)) ∧
      ¬ Selects db "flavour" f none ∧ ¬ Selects db "flavour" g none) ∧
    (∃ f g, build "flavour" equal (.text "") now = .ok f ∧
      build "flavour" different (.text "") now = .ok g ∧
      Selects db "flavour" f none ∧ ¬ Selects db "flavour" g none) ∧
    ∃ f g, build "opened_at" within (.relativeDate .today) now = .ok f ∧
      build "opened_at" outside (.relativeDate .today) now = .ok g ∧
      ∀ d, Selects db "opened_at" f (some d) ↔ ¬ Selects db "opened_at" g (some d) := by
  have hequal : Operator.Opposites { name := "is", type := .string }
      { name := "is not", type := .string, negative := true } := ⟨rfl, rfl, rfl⟩
  intro among notAmong equal different within outside db now
  have hmember : among.Opposites notAmong := ⟨rfl, rfl, rfl⟩
  have hrange : within.Opposites outside := ⟨rfl, rfl, rfl⟩
  have hnothing : (Value.collection []).Fits among.type := .collection []
  have hempty : (Value.text "").Fits equal.type := .string ""
  have htoday : (Value.relativeDate .today).Fits within.type := .relativeDate .today
  have hranges (v : Value) : v.HasRange now := Value.hasRange_of_year (by decide +kernel) v
  obtain ⟨-, hselects⟩ := opposites_select_complements "flavour" now
  refine ⟨⟨hmember, hnothing, hranges _⟩, ⟨hequal, hempty, hranges _⟩,
    ⟨hrange, htoday, hranges _⟩, ?_, ?_, ?_⟩
  · obtain ⟨f, g, hf, hg, hdb⟩ := hselects among notAmong hmember _ hnothing (hranges _)
    obtain ⟨hdatum, hnull, hnegated⟩ := hdb db
    have hselected : Selects db "flavour" g (some (.int 3)) := by
      obtain rfl := Except.ok.inj ((ofCollection_eq_write "flavour" notAmong []).symm.trans hg)
      exact selects_write_iff.2 rfl
    exact ⟨f, g, hf, hg, fun h => (hdatum _).1 h hselected, hselected,
      fun h => absurd (hnull.1 h).1 (by decide), hnegated⟩
  · obtain ⟨f, g, hf, hg, hdb⟩ := hselects equal different hequal _ hempty (hranges _)
    obtain ⟨-, hnull, hnegated⟩ := hdb db
    exact ⟨f, g, hf, hg, hnull.2 ⟨rfl, rfl⟩, hnegated⟩
  · obtain ⟨-, hselects⟩ := opposites_select_complements "opened_at" now
    obtain ⟨f, g, hf, hg, hdb⟩ := hselects within outside hrange _ htoday (hranges _)
    exact ⟨f, g, hf, hg, (hdb db).1⟩

/-- On the last day of the calendar there is neither a condition for what lies in the past nor one
for what lies outside of it. -/
theorem opposites_without_conditions_on_last_day :
    let within : Operator := { name := "within", type := .relativeDate }
    let outside : Operator := { name := "outside of", type := .relativeDate, negative := true }
    let past : Value := .relativeDate .past
    let now := Timestamp.ofDate Date.latest
    within.Opposites outside ∧ past.Fits within.type ∧ now.Datable ∧
      ¬ ∃ f, build "opened_at" within past now = .ok f ∨
        build "opened_at" outside past now = .ok f := by
  intro within outside past now
  have hnone : RelativeDate.past.range now = none :=
    RelativeDate.range_eq_none Timestamp.date_ofDate_latest .past
  refine ⟨⟨rfl, rfl, rfl⟩, .relativeDate .past, Timestamp.datable_ofDate_latest, ?_⟩
  have hbuild (op : Operator) (f : Fragment) :
      ofRelativeDate "opened_at" op past now ≠ .ok f := by
    intro h
    obtain ⟨d, first, last, hd, hrange, -⟩ := ofRelativeDate_eq_ok_iff.1 h
    obtain rfl := Value.relativeDate.inj hd
    rw [hnone] at hrange
    cases hrange
  rintro ⟨f, h | h⟩
  · exact hbuild within f h
  · exact hbuild outside f h

end Condition

end FilterSql
