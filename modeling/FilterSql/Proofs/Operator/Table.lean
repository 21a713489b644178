import FilterSql.Proofs.Outcome
import FilterSql.Proofs.Resolution.Lookup

/-!
# Further operators

Two operators are rivals if they share their value type and, but for the case of the letters `A` to
`Z`, their name. A table takes a further operator unless it has a rival of it. The standard
operators have no rivals among them, so however many operators are offered to a table and however
many of them it refuses, there are never two rivals in it. Where a name has several operators to
choose from they belong to different value types.

## Main definitions

* `FilterSql.Operator.Rivals`: the same value type and the same name.
* `FilterSql.Unambiguous`: a list of operators without rivals.
* `FilterSql.OperatorTable.FirstRival`: the first operator of a list that comes after a rival.
* `FilterSql.OperatorTable.after`, `FilterSql.OperatorTable.replay`: what a table becomes when
  operators are offered to it, which it may refuse.

## Main results

* `FilterSql.OperatorTable.pushAll_eq_ok_iff`: the lists of operators that a table takes.
* `FilterSql.OperatorTable.pushAll_eq_error_iff`: what is wrong with the other ones.
* `FilterSql.OperatorTable.unambiguous_replay`: what is offered to a table leaves it unambiguous.
* `FilterSql.OperatorTable.pushes_until_first_rival`: both from the tables that one starts with.
-/

namespace FilterSql

open Text

/-! ### Rivals -/

/-- Two operators have the same value type and the same name but for the case of its letters. -/
def Operator.Rivals (a b : Operator) : Prop :=
  a.type = b.type ∧ lower a.name = lower b.name

instance (a b : Operator) : Decidable (a.Rivals b) :=
  inferInstanceAs (Decidable (_ ∧ _))

/-- No two operators of a list are rivals. -/
def Unambiguous (ops : List Operator) : Prop :=
  ops.Pairwise fun a b => ¬ a.Rivals b

instance (ops : List Operator) : Decidable (Unambiguous ops) :=
  inferInstanceAs (Decidable (ops.Pairwise _))

theorem unambiguous_append_singleton_iff {ops : List Operator} {op : Operator} :
    Unambiguous (ops ++ [op]) ↔ Unambiguous ops ∧ ¬ ∃ earlier ∈ ops, earlier.Rivals op := by
  simp [Unambiguous, List.pairwise_append]

theorem Unambiguous.of_append_left {ops ops' : List Operator} (h : Unambiguous (ops ++ ops')) :
    Unambiguous ops :=
  (List.pairwise_append.1 h).1

namespace OperatorTable

variable {start table table' : OperatorTable} {op : Operator} {ops before : List Operator}
  {cause : Cause}

theorem clashes_iff {a b : Operator} : clashes a b = true ↔ a.Rivals b := by
  simp [clashes, Operator.Rivals, sameIgnoringCase_iff]

/-- The standard operators have no rivals among them. -/
theorem unambiguous_standard : Unambiguous standard.operators := by
  decide +kernel

/-! ### One more operator -/

theorem any_clashes_iff :
    table.operators.any (clashes · op) = true ↔ ∃ earlier ∈ table.operators, earlier.Rivals op := by
  simp only [List.any_eq_true, clashes_iff]

/-- A table takes an operator that has no rival in it. -/
theorem push_of_no_rival (h : ¬ ∃ earlier ∈ table.operators, earlier.Rivals op) :
    table.push op = .ok ⟨table.operators ++ [op]⟩ :=
  push_eq_ok_iff.2 ⟨by rwa [← Bool.not_eq_true, any_clashes_iff], rfl⟩

/-- A table refuses an operator that has a rival in it. -/
theorem push_of_rival (h : ∃ earlier ∈ table.operators, earlier.Rivals op) :
    table.push op = .error (.duplicateOperator op.name op.type) :=
  if_pos (any_clashes_iff.2 h)

/-! ### Several operators -/

theorem pushAll_cons (table : OperatorTable) (op : Operator) (ops : List Operator) :
    table.pushAll (op :: ops) = table.push op >>= (·.pushAll ops) := by
  rw [pushAll, List.foldlM_cons]
  rfl

theorem pushAll_append (table : OperatorTable) (ops ops' : List Operator) :
    table.pushAll (ops ++ ops') = table.pushAll ops >>= (·.pushAll ops') := by
  rw [pushAll, List.foldlM_append]
  rfl

/-- A table without rivals takes a list of operators if there are none in the two together. -/
theorem pushAll_eq_ok_iff (h : Unambiguous table.operators) :
    table.pushAll ops = .ok table' ↔
      Unambiguous (table.operators ++ ops) ∧ ⟨table.operators ++ ops⟩ = table' := by
  induction ops generalizing table with
  | nil =>
    rw [List.append_nil]
    exact ⟨fun hok => ⟨h, Except.ok.inj hok⟩, fun ⟨_, heq⟩ => congrArg Except.ok heq⟩
  | cons op ops ih =>
    have hsplit : table.operators ++ op :: ops = table.operators ++ [op] ++ ops := by simp
    rw [pushAll_cons, hsplit]
    by_cases hrival : ∃ earlier ∈ table.operators, earlier.Rivals op
    · rw [push_of_rival hrival]
      refine ⟨nofun, fun ⟨hall, _⟩ => ?_⟩
      exact absurd hrival (unambiguous_append_singleton_iff.1 hall.of_append_left).2
    · rw [push_of_no_rival hrival]
      exact ih (unambiguous_append_singleton_iff.2 ⟨h, hrival⟩)

/-- After some operators of a list, without rivals among them and those of a table, the next one has
a rival among all of these. -/
def FirstRival (table : OperatorTable) (ops before : List Operator) (op : Operator) : Prop :=
  (∃ after, ops = before ++ op :: after) ∧ Unambiguous (table.operators ++ before) ∧
    ∃ earlier ∈ table.operators ++ before, earlier.Rivals op

theorem FirstRival.pushAll_before (h : Unambiguous table.operators)
    (hfirst : table.FirstRival ops before op) :
    table.pushAll before = .ok ⟨table.operators ++ before⟩ :=
  (pushAll_eq_ok_iff h).2 ⟨hfirst.2.1, rfl⟩

/-- A list of operators without rivals has no first one, and every other list has. -/
theorem exists_firstRival (h : Unambiguous table.operators)
    (hops : ¬ Unambiguous (table.operators ++ ops)) :
    ∃ before op, table.FirstRival ops before op := by
  induction ops generalizing table with
  | nil => exact absurd (by rwa [List.append_nil]) hops
  | cons op ops ih =>
    by_cases hrival : ∃ earlier ∈ table.operators, earlier.Rivals op
    · exact ⟨[], op, ⟨ops, rfl⟩, by rwa [List.append_nil], by rwa [List.append_nil]⟩
    · have hnext : Unambiguous (table.operators ++ [op]) :=
        unambiguous_append_singleton_iff.2 ⟨h, hrival⟩
      have hsplit (ops' : List Operator) :
          table.operators ++ op :: ops' = table.operators ++ [op] ++ ops' := by simp
      rw [hsplit] at hops
      obtain ⟨before, op', ⟨after, rfl⟩, hbefore, hop'⟩ :=
        @ih ⟨table.operators ++ [op]⟩ hnext hops
      refine ⟨op :: before, op', ⟨after, rfl⟩, ?_, ?_⟩
      · rwa [hsplit]
      · rwa [hsplit]

/-- A table without rivals refuses a list of operators for the first one that has a rival before
it. -/
theorem pushAll_eq_error_iff (h : Unambiguous table.operators) :
    table.pushAll ops = .error cause ↔
      ∃ before op, table.FirstRival ops before op ∧ cause = .duplicateOperator op.name op.type := by
  have herror {before : List Operator} {op : Operator} (hfirst : table.FirstRival ops before op) :
      table.pushAll ops = .error (.duplicateOperator op.name op.type) := by
    have hbefore := hfirst.pushAll_before h
    obtain ⟨⟨after, rfl⟩, -, hrival⟩ := hfirst
    rw [pushAll_append, hbefore]
    change OperatorTable.pushAll ⟨table.operators ++ before⟩ (op :: after) = _
    rw [pushAll_cons, push_of_rival hrival]
    rfl
  constructor
  · intro hcause
    have hops : ¬ Unambiguous (table.operators ++ ops) := by
      intro hall
      rw [(pushAll_eq_ok_iff h).2 ⟨hall, rfl⟩] at hcause
      cases hcause
    obtain ⟨before, op, hfirst⟩ := exists_firstRival h hops
    exact ⟨before, op, hfirst, (Except.error.inj ((herror hfirst).symm.trans hcause)).symm⟩
  · rintro ⟨before, op, hfirst, rfl⟩
    exact herror hfirst

/-! ### Offers -/

/-- A table after an operator is offered to it. If it refuses it, it stays as it is. -/
def after (table : OperatorTable) (op : Operator) : OperatorTable :=
  match table.push op with
  | .ok table' => table'
  | .error _ => table

/-- A table after some operators are offered to it, one after another. -/
def replay (table : OperatorTable) (ops : List Operator) : OperatorTable :=
  ops.foldl after table

theorem after_of_push_eq_ok (h : table.push op = .ok table') : table.after op = table' := by
  rw [after, h]

theorem after_of_push_eq_error (h : table.push op = .error cause) : table.after op = table := by
  rw [after, h]

theorem replay_append_singleton (table : OperatorTable) (ops : List Operator) (op : Operator) :
    table.replay (ops ++ [op]) = (table.replay ops).after op :=
  List.foldl_append

/-- An offer brings no rivals into a table. -/
theorem unambiguous_after (h : Unambiguous table.operators) (op : Operator) :
    Unambiguous (table.after op).operators := by
  by_cases hrival : ∃ earlier ∈ table.operators, earlier.Rivals op
  · rwa [after_of_push_eq_error (push_of_rival hrival)]
  · rw [after_of_push_eq_ok (push_of_no_rival hrival)]
    exact unambiguous_append_singleton_iff.2 ⟨h, hrival⟩

/-- Offers one after another bring no rivals into a table. -/
theorem unambiguous_replay (h : Unambiguous table.operators) (ops : List Operator) :
    Unambiguous (table.replay ops).operators := by
  induction ops generalizing table with
  | nil => exact h
  | cons op ops ih => exact ih (unambiguous_after h op)

/-- A list of operators that a table takes is taken when they are offered to it. -/
theorem replay_of_pushAll_eq_ok (h : table.pushAll ops = .ok table') :
    table.replay ops = table' := by
  induction ops generalizing table with
  | nil => exact Except.ok.inj h
  | cons op ops ih =>
    rw [pushAll_cons] at h
    obtain ⟨next, hnext, hrest⟩ := bind_eq_ok_iff.1 h
    rw [replay, List.foldl_cons, after_of_push_eq_ok hnext]
    exact ih hrest

/-! ### What a name can mean -/

/-- In a table without rivals the operators that a name can mean belong to different value
types. -/
theorem pairwise_type_ne (h : Unambiguous table.operators) (name : String)
    (types : List ValueType) :
    (table.operators.filter (answers (trim name) types)).Pairwise (·.type ≠ ·.type) := by
  refine (h.filter _).imp_of_mem fun {a b} ha hb hrivals htype => hrivals ⟨htype, ?_⟩
  have hname {op : Operator} (hop : op ∈ table.operators.filter (answers (trim name) types)) :
      lower op.name = lower (trim name) :=
    sameIgnoringCase_iff.1 (answers_iff.1 (List.mem_filter.1 hop).2).1
  exact (hname ha).trans (hname hb).symm

/-- In a table without rivals a name means at most one operator of a value type. -/
theorem length_filter_le_one (h : Unambiguous table.operators) (name : String)
    (type : ValueType) :
    (table.operators.filter (answers (trim name) [type])).length ≤ 1 := by
  have htype : ∀ op ∈ table.operators.filter (answers (trim name) [type]), op.type = type :=
    fun op hop => List.mem_singleton.1 (answers_iff.1 (List.mem_filter.1 hop).2).2
  have hpairwise := pairwise_type_ne h name [type]
  cases hfound : table.operators.filter (answers (trim name) [type]) with
  | nil => exact Nat.zero_le 1
  | cons a rest =>
    cases rest with
    | nil => exact Nat.le_refl 1
    | cons b rest =>
      rw [hfound] at htype hpairwise
      have hne := (List.pairwise_cons.1 hpairwise).1 b List.mem_cons_self
      exact absurd ((htype a (by simp)).trans (htype b (by simp)).symm) hne

/-- The tables that one starts with have no rivals in them. -/
theorem unambiguous_of_start (h : start = .empty ∨ start = .standard) :
    Unambiguous start.operators := by
  rcases h with rfl | rfl
  · exact List.Pairwise.nil
  · exact unambiguous_standard

/-- The table that one starts with takes some operators one after another just if there are no
rivals among the two, and then they stand behind it in order. Otherwise the first one that comes
after a rival is refused: the ones before it are taken, the error gives its name and its value type,
and the table stays as it is. In every table that comes about by such offers, whether all of them
are taken or not, a name means at most one operator of a value type. So the operators that it can
mean among several value types belong to different ones. -/
theorem pushes_until_first_rival (hstart : start = .empty ∨ start = .standard)
    (extras : List Operator) :
    (∀ table, start.pushAll extras = .ok table ↔
      Unambiguous (start.operators ++ extras) ∧ ⟨start.operators ++ extras⟩ = table) ∧
    (∀ cause, start.pushAll extras = .error cause ↔
      ∃ before op, start.FirstRival extras before op ∧
        cause = .duplicateOperator op.name op.type) ∧
    (∀ before op, start.FirstRival extras before op →
      start.pushAll before = .ok (start.replay before) ∧
        (start.replay before).push op = .error (.duplicateOperator op.name op.type) ∧
        start.replay (before ++ [op]) = start.replay before) ∧
    ∀ table, start.pushAll extras = .ok table ∨ start.replay extras = table →
      (∀ name type, (table.operators.filter (answers (trim name) [type])).length ≤ 1) ∧
        ∀ name types,
          (table.operators.filter (answers (trim name) types)).Pairwise (·.type ≠ ·.type) := by
  have hunambiguous := unambiguous_of_start hstart
  refine ⟨fun _ => pushAll_eq_ok_iff hunambiguous, fun _ => pushAll_eq_error_iff hunambiguous,
    fun before op hfirst => ?_, fun table htable => ?_⟩
  · have hbefore := hfirst.pushAll_before hunambiguous
    have hreplay := replay_of_pushAll_eq_ok hbefore
    have hpush : (start.replay before).push op = .error (.duplicateOperator op.name op.type) :=
      push_of_rival (hreplay ▸ hfirst.2.2)
    refine ⟨by rw [hbefore, hreplay], hpush, ?_⟩
    rw [replay_append_singleton, after_of_push_eq_error hpush]
  · have hreplay : start.replay extras = table := htable.elim replay_of_pushAll_eq_ok id
    have htable : Unambiguous table.operators := hreplay ▸ unambiguous_replay hunambiguous extras
    exact ⟨length_filter_le_one htable, pairwise_type_ne htable⟩

/-- A further operator `IS` for collections is taken and one for texts is refused, although another
one between them is new. What comes after is taken as well if it is offered all the same. -/
theorem pushes_until_first_rival_between_new_names :
    let collections : Operator := { name := "IS", type := .collection }
    let resembles : Operator := { name := "resembles", type := .string }
    let texts : Operator := { name := "Is", type := .string, negative := true }
    let choices : Operator := { name := "is", type := .singleChoice }
    let extras := [collections, resembles, texts, choices]
    let table := standard.replay extras
    standard.FirstRival extras [collections, resembles] texts ∧
    standard.pushAll extras = .error (.duplicateOperator "Is" .string) ∧
    (standard.replay [collections, resembles]).push texts =
      .error (.duplicateOperator "Is" .string) ∧
    standard.replay [collections, resembles, texts] = standard.replay [collections, resembles] ∧
    table.operators = standard.operators ++ [collections, resembles, choices] ∧
    (table.operators.filter (answers (trim " iS ") [.string])).length ≤ 1 ∧
    (table.operators.filter (answers (trim " iS ") ValueType.all)).length = 5 ∧
    (table.operators.filter (answers (trim " iS ") ValueType.all)).Pairwise (·.type ≠ ·.type) := by
  intro collections resembles texts choices extras table
  obtain ⟨-, herror, hrefused, hreached⟩ := pushes_until_first_rival (.inr rfl) extras
  have hfirst : standard.FirstRival extras [collections, resembles] texts :=
    ⟨⟨[choices], rfl⟩, by decide +kernel +zetaReduce, by decide +kernel +zetaReduce⟩
  have hoperators : table.operators = standard.operators ++ [collections, resembles, choices] := by
    decide +kernel +zetaReduce
  have hall : (table.operators.filter (answers (trim " iS ") ValueType.all)).length = 5 := by
    decide +kernel +zetaReduce
  obtain ⟨-, hpush, hunchanged⟩ := hrefused _ _ hfirst
  obtain ⟨hone, htypes⟩ := hreached table (.inr rfl)
  exact ⟨hfirst, (herror _).2 ⟨_, _, hfirst, rfl⟩, hpush, hunchanged, hoperators, hone _ _, hall,
    htypes _ _⟩

end OperatorTable

end FilterSql
