import FilterSql.Proofs.Resolution.Basic

/-!
# What a clause names

A clause names a data source and an operator. The data source is the only one of the catalog with
that display name; the operator is the last one of the table with that name among the value types
of the data source. Both are said here of the lists as they stand, without the search that finds
them.

## Main definitions

* `FilterSql.IsOnly`, `FilterSql.IsLast`: the only element of a list with a property, and the last
  one.
* `FilterSql.Operator.MeantBy`: the operators that a name can mean among some value types.

## Main results

* `FilterSql.Catalog.resolve_eq_ok_iff`: the data source that a name finds.
* `FilterSql.OperatorTable.resolve_eq_ok_iff`: the operator that a name finds.
* `FilterSql.OperatorTable.resolve_push`: what a name finds once there is one more operator.
-/

namespace FilterSql

open Text

/-! ### Elements of a list -/

section Lists

variable {α : Type} {xs : List α} {x : α}

/-- An element stands at one place of a list and has a property that no element at another place
has. -/
def IsOnly (p : α → Prop) (xs : List α) (x : α) : Prop :=
  ∃ before after, xs = before ++ x :: after ∧ p x ∧ ∀ y ∈ before ++ after, ¬ p y

/-- An element stands at one place of a list and has a property that no element behind it has. -/
def IsLast (p : α → Prop) (xs : List α) (x : α) : Prop :=
  ∃ before after, xs = before ++ x :: after ∧ p x ∧ ∀ y ∈ after, ¬ p y

theorem IsOnly.mem {p : α → Prop} (h : IsOnly p xs x) : x ∈ xs := by
  obtain ⟨before, after, rfl, -⟩ := h
  simp

theorem IsOnly.eq {p : α → Prop} {y : α} (h : IsOnly p xs x) (hy : y ∈ xs) (hp : p y) : y = x := by
  obtain ⟨before, after, rfl, -, hothers⟩ := h
  rcases List.mem_append.1 hy with hy | hy
  · exact absurd hp (hothers y (List.mem_append_left _ hy))
  · rcases List.mem_cons.1 hy with hy | hy
    · exact hy
    · exact absurd hp (hothers y (List.mem_append_right _ hy))

/-- Of lists that have nothing in common and no repetitions only one has an element. -/
theorem isOnly_of_nodup_flatMap {β : Type} {f : α → List β} {k : β} (h : (xs.flatMap f).Nodup)
    (hx : x ∈ xs) (hk : k ∈ f x) : IsOnly (k ∈ f ·) xs x := by
  obtain ⟨before, after, rfl⟩ := List.append_of_mem hx
  rw [List.flatMap_append, List.flatMap_cons] at h
  obtain ⟨-, hrest, hbefore⟩ := List.nodup_append.1 h
  obtain ⟨-, -, hafter⟩ := List.nodup_append.1 hrest
  refine ⟨before, after, rfl, hk, List.forall_mem_append.2 ⟨fun y hy hky => ?_,
    fun y hy hky => ?_⟩⟩
  · exact hbefore k (List.mem_flatMap.2 ⟨y, hy, hky⟩) k (List.mem_append_left _ hk) rfl
  · exact hafter k hk k (List.mem_flatMap.2 ⟨y, hy, hky⟩) rfl

theorem filter_eq_singleton_iff {p : α → Bool} :
    xs.filter p = [x] ↔ IsOnly (p · = true) xs x := by
  simp only [List.filter_eq_cons_iff, List.filter_eq_nil_iff, IsOnly, List.forall_mem_append]
  constructor
  · rintro ⟨before, after, hsplit, hbefore, hx, hafter⟩
    exact ⟨before, after, hsplit, hx, hbefore, hafter⟩
  · rintro ⟨before, after, hsplit, hx, hbefore, hafter⟩
    exact ⟨before, after, hsplit, hbefore, hx, hafter⟩

theorem getLast?_filter_eq_some_iff {p : α → Bool} :
    (xs.filter p).getLast? = some x ↔ IsLast (p · = true) xs x := by
  rw [List.getLast?_filter, List.find?_eq_some_iff_append]
  constructor
  · rintro ⟨hx, after, before, hsplit, hafter⟩
    refine ⟨before.reverse, after.reverse, ?_, hx, by simpa using hafter⟩
    simpa using congrArg List.reverse hsplit
  · rintro ⟨before, after, rfl, hx, hafter⟩
    exact ⟨hx, after.reverse, before.reverse, by simp, by simpa using hafter⟩

end Lists

/-! ### Data sources -/

/-- A name finds a data source if this is the only one with that display name. -/
theorem Catalog.resolve_eq_ok_iff {catalog : Catalog} {name : String} {source : DataSource} :
    catalog.resolve name = .ok source ↔ IsOnly (·.displayName = name) catalog.sources source := by
  have hfilter : catalog.sources.filter (·.displayName == name) = [source] ↔
      IsOnly (·.displayName = name) catalog.sources source := by
    simp only [filter_eq_singleton_iff, beq_iff_eq]
  rw [← hfilter, Catalog.resolve]
  split
  case h_1 h => simp [h]
  case h_2 h => simp [h]
  case h_3 h => simp [h]

/-! ### Operators -/

/-- A name means an operator among some value types: the operator has that name, blanks around the
name and the case of the letters `A` to `Z` aside, and belongs to one of the types. -/
def Operator.MeantBy (op : Operator) (name : String) (types : List ValueType) : Prop :=
  sameIgnoringCase op.name (trim name) = true ∧ op.type ∈ types

namespace OperatorTable

variable {table table' : OperatorTable} {name : String} {types : List ValueType} {op : Operator}

theorem answers_iff : answers (trim name) types op = true ↔ op.MeantBy name types := by
  simp [answers, Operator.MeantBy]

/-- A name finds an operator among some value types if this is the last one that the name means. -/
theorem resolve_eq_ok_iff :
    table.resolve name types = .ok op ↔ IsLast (·.MeantBy name types) table.operators op := by
  have hlast : (table.operators.filter (answers (trim name) types)).getLast? = some op ↔
      IsLast (·.MeantBy name types) table.operators op := by
    simp only [getLast?_filter_eq_some_iff, answers_iff]
  rw [← hlast, OperatorTable.resolve]
  split
  case h_1 h => simp [h]
  case h_2 h => simp [h]

theorem push_eq_ok_iff :
    table.push op = .ok table' ↔
      table.operators.any (clashes · op) = false ∧ ⟨table.operators ++ [op]⟩ = table' := by
  rw [push]
  cases table.operators.any (clashes · op) <;> simp

/-- A further operator is found by the names that mean it. All other names find what they found
before. -/
theorem resolve_push (h : table.push op = .ok table') (name : String) (types : List ValueType) :
    (op.MeantBy name types → table'.resolve name types = .ok op) ∧
      (¬ op.MeantBy name types → table'.resolve name types = table.resolve name types) := by
  obtain ⟨-, rfl⟩ := push_eq_ok_iff.1 h
  constructor
  · intro hop
    exact resolve_eq_ok_iff.2 ⟨table.operators, [], rfl, hop, by simp⟩
  · intro hop
    rw [OperatorTable.resolve, OperatorTable.resolve, List.filter_append,
      List.filter_cons_of_neg (mt answers_iff.1 hop), List.filter_nil, List.append_nil]

end OperatorTable

end FilterSql
