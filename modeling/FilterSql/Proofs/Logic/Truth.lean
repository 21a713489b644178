import FilterSql.Filter.Connective

/-!
# The truth of conditions

A condition of SQL is true, false or unknown for a row, and a row is selected only where it is true.
Conditions are combined by the strong three-valued connectives. A group without conditions puts no
restriction on rows, whatever its connective, so it counts as true.

## Main definitions

* `FilterSql.Truth`: the three truth values.
* `FilterSql.Truth.and`, `FilterSql.Truth.or`, `FilterSql.Truth.not`: the three-valued connectives.
* `FilterSql.Connective.truth`: the truth of a group from that of its children.

## Main results

* `FilterSql.Connective.truth_filterMap`: children without a restriction can be left out of a group
  whose conditions all have to hold.
* `FilterSql.Connective.truth_any_of_mem`: a true child lifts the restriction of a group one of
  whose conditions has to hold.
* `FilterSql.Connective.truth_eq_false_of_forall`: a group of children that are all false is false.
-/

namespace FilterSql

/-- What a condition is for a row. -/
inductive Truth where
  /-- It does not hold. -/
  | false
  /-- It cannot be told, since a null is involved. -/
  | unknown
  /-- It holds. -/
  | true
deriving DecidableEq, Repr

namespace Truth

/-- The truth of two conditions that both have to hold. -/
def and : Truth → Truth → Truth
  | .false, _ => .false
  | _, .false => .false
  | .true, .true => .true
  | _, _ => .unknown

/-- The truth of two conditions one of which has to hold. -/
def or : Truth → Truth → Truth
  | .true, _ => .true
  | _, .true => .true
  | .false, .false => .false
  | _, _ => .unknown

/-- The truth of a condition that is negated. -/
def not : Truth → Truth
  | .false => .true
  | .unknown => .unknown
  | .true => .false

/-- The truth of what can be told. -/
def ofBool (b : Bool) : Truth := if b then .true else .false

@[simp] theorem true_and (t : Truth) : Truth.true.and t = t := by cases t <;> rfl

@[simp] theorem false_and (t : Truth) : Truth.false.and t = .false := rfl

@[simp] theorem false_or (t : Truth) : Truth.false.or t = t := by cases t <;> rfl

@[simp] theorem or_true (t : Truth) : t.or .true = .true := by cases t <;> rfl

theorem or_eq_true_iff {s t : Truth} : s.or t = .true ↔ s = .true ∨ t = .true := by
  cases s <;> cases t <;> simp [or]

/-- The truth of conditions that all have to hold. -/
def all (ts : List Truth) : Truth := ts.foldr and .true

/-- The truth of conditions one of which has to hold. -/
def any (ts : List Truth) : Truth := ts.foldr or .false

@[simp] theorem all_cons (t : Truth) (ts : List Truth) : all (t :: ts) = t.and (all ts) := rfl

@[simp] theorem any_cons (t : Truth) (ts : List Truth) : any (t :: ts) = t.or (any ts) := rfl

theorem any_eq_true_of_mem {ts : List Truth} (h : .true ∈ ts) : any ts = .true := by
  induction ts with
  | nil => simp at h
  | cons t ts ih =>
    rcases List.mem_cons.1 h with rfl | h
    · rfl
    · rw [any_cons, ih h, or_true]

theorem any_eq_false_of_forall {ts : List Truth} (h : ∀ t ∈ ts, t = .false) :
    any ts = .false := by
  induction ts with
  | nil => rfl
  | cons t ts ih =>
    rw [any_cons, h t List.mem_cons_self, false_or]
    exact ih fun s hs => h s (List.mem_cons_of_mem t hs)

/-- Conditions that can all be told can be told together. -/
theorem any_ne_unknown {ts : List Truth} (h : ∀ t ∈ ts, t ≠ .unknown) : any ts ≠ .unknown := by
  induction ts with
  | nil => nofun
  | cons t ts ih =>
    obtain ⟨ht, hts⟩ := List.forall_mem_cons.1 h
    cases t with
    | false =>
      rw [any_cons, false_or]
      exact ih hts
    | unknown => exact absurd rfl ht
    | true => nofun

/-- Conditions none of which can be told cannot be told together. -/
theorem any_eq_unknown_of_forall {ts : List Truth} (hts : ts ≠ []) (h : ∀ t ∈ ts, t = .unknown) :
    any ts = .unknown := by
  induction ts with
  | nil => exact absurd rfl hts
  | cons t ts ih =>
    obtain ⟨ht, hts⟩ := List.forall_mem_cons.1 h
    rw [any_cons, ht]
    cases ts with
    | nil => rfl
    | cons s ts =>
      rw [ih (List.cons_ne_nil s ts) hts]
      rfl

theorem and_ne_unknown {s t : Truth} (hs : s ≠ .unknown) (ht : t ≠ .unknown) :
    s.and t ≠ .unknown := by
  cases s <;> cases t <;> simp_all [and]

theorem ofBool_ne_unknown (b : Bool) : ofBool b ≠ .unknown := by
  cases b <;> nofun

theorem ofBool_eq_true_iff {b : Bool} : ofBool b = .true ↔ b = Bool.true := by
  cases b <;> simp [ofBool]

/-- Of a condition that can be told either it holds or its negation does. -/
theorem eq_true_iff_not_ne_true {t : Truth} (h : t ≠ .unknown) :
    t = .true ↔ ¬ t.not = .true := by
  cases t <;> simp_all [not]

end Truth

namespace Connective

/-- The truth of a group from that of its children; without children it is true. -/
def truth : Connective → List Truth → Truth
  | _, [] => .true
  | .all, t :: ts => Truth.all (t :: ts)
  | .any, t :: ts => Truth.any (t :: ts)

theorem truth_all (ts : List Truth) : Connective.all.truth ts = Truth.all ts := by
  cases ts <;> rfl

theorem truth_any_of_mem {ts : List Truth} (h : .true ∈ ts) :
    Connective.any.truth ts = .true := by
  cases ts with
  | nil => rfl
  | cons t ts => exact Truth.any_eq_true_of_mem h

/-- The children without a restriction can be left out of a group, unless one of its conditions has
to hold and there is such a child. -/
theorem truth_filterMap {α : Type} (value : α → Truth) {connective : Connective}
    {parts : List (Option α)} (h : connective = .any → none ∉ parts) :
    connective.truth ((parts.filterMap id).map value) =
      connective.truth (parts.map fun part => part.elim .true value) := by
  cases connective with
  | all =>
    clear h
    rw [truth_all, truth_all]
    induction parts with
    | nil => rfl
    | cons part parts ih =>
      cases part with
      | none => exact ih.trans (Truth.true_and _).symm
      | some a => exact congrArg (value a).and ih
  | any =>
    have hnone : none ∉ parts := h rfl
    clear h
    congr 1
    induction parts with
    | nil => rfl
    | cons part parts ih =>
      cases part with
      | none => exact absurd List.mem_cons_self hnone
      | some a =>
        have hrest : none ∉ parts := fun hmem => hnone (List.mem_cons_of_mem _ hmem)
        exact congrArg (value a :: ·) (ih hrest)

/-- A group of conditions that are all false is false. -/
theorem truth_eq_false_of_forall (connective : Connective) {t : Truth} {ts : List Truth}
    (h : ∀ s ∈ t :: ts, s = .false) : connective.truth (t :: ts) = .false := by
  cases connective with
  | all => rw [truth, Truth.all_cons, h t List.mem_cons_self, Truth.false_and]
  | any => exact Truth.any_eq_false_of_forall h

end Connective

end FilterSql
