import FilterSql.Proofs.Resolution.FirstFailure

/-!
# Settings that agree on a filter

Of its catalog and its operators a resolution sees no more than what they make of the clauses of the
filter, and of its overrides a condition sees no more than what they make of the resolved clauses.
So two settings that make the same of these give the same answers for the filter, whatever else is
different in them.

## Main definitions

* `FilterSql.Node.HasClause`: the clauses at or below a node.

## Main results

* `FilterSql.Filter.resolve_congr`: the resolution of a filter depends on that of its clauses.
* `FilterSql.Compiler.condition_congr`, `FilterSql.Compiler.query_congr`: the condition and the
  query depend on the conditions of the resolved clauses.
-/

namespace FilterSql

/-! ### Resolution -/

namespace Node

variable {catalog catalog' : Catalog} {table table' : OperatorTable}

/-- A clause stands at or below a node. -/
def HasClause (n : Node) (c : Clause) : Prop :=
  ∃ is, n.at? is = some (.clause c)

@[simp] theorem hasClause_clause_iff {c d : Clause} : (Node.clause c).HasClause d ↔ d = c := by
  constructor
  · rintro ⟨is, his⟩
    cases is with
    | nil => simpa [at?, eq_comm] using his
    | cons i is => simp [at?] at his
  · rintro rfl
    exact ⟨[], rfl⟩

@[simp] theorem hasClause_group_iff {name : Option String} {ns : List Node} {c : Clause} :
    (Node.group name ns).HasClause c ↔ ∃ n ∈ ns, n.HasClause c := by
  constructor
  · rintro ⟨is, his⟩
    cases is with
    | nil => simp [at?] at his
    | cons i is =>
      rw [at?] at his
      obtain ⟨n, hn, his⟩ := Option.bind_eq_some_iff.1 his
      exact ⟨n, List.mem_of_getElem? hn, is, his⟩
  · rintro ⟨n, hn, is, his⟩
    obtain ⟨i, hi⟩ := List.mem_iff_getElem?.1 hn
    exact ⟨i :: is, by rw [at?, hi, Option.bind_some, his]⟩

theorem resolveList_congr {ns : List Node}
    (h : ∀ n ∈ ns, ∀ p, n.resolve catalog table p = n.resolve catalog' table' p) (p : Path)
    (i : Nat) : resolveList catalog table p i ns = resolveList catalog' table' p i ns := by
  induction ns generalizing i with
  | nil => rfl
  | cons n ns ih =>
    obtain ⟨hn, hns⟩ := List.forall_mem_cons.1 h
    rw [resolveList, resolveList, hn, ih hns]

/-- A node resolves alike under two settings if its clauses do. -/
theorem resolve_congr {n : Node}
    (h : ∀ c, n.HasClause c → ∀ p, c.resolve catalog table p = c.resolve catalog' table' p)
    (p : Path) : n.resolve catalog table p = n.resolve catalog' table' p := by
  induction n generalizing p with
  | clause c => rw [Node.resolve, Node.resolve, h c (hasClause_clause_iff.2 rfl)]
  | group name ns ih =>
    have hchildren : ∀ n ∈ ns, ∀ p, n.resolve catalog table p = n.resolve catalog' table' p :=
      fun n hn => ih n hn fun c hc => h c (hasClause_group_iff.2 ⟨n, hn, hc⟩)
    rw [Node.resolve, Node.resolve, resolveList_congr hchildren]

end Node

/-- A filter resolves alike under two settings if its clauses do. -/
theorem Filter.resolve_congr {catalog catalog' : Catalog} {table table' : OperatorTable}
    {f : Filter} (h : ∀ c, f.toNode.HasClause c → ∀ p,
      c.resolve catalog table p = c.resolve catalog' table' p) :
    f.resolve catalog table = f.resolve catalog' table' := by
  have hchildren : ∀ n ∈ f.children, ∀ p,
      n.resolve catalog table p = n.resolve catalog' table' p :=
    fun n hn => Node.resolve_congr fun c hc => h c (Node.hasClause_group_iff.2 ⟨n, hn, hc⟩)
  rw [Filter.resolve, Filter.resolve, Node.resolveList_congr hchildren]

/-! ### Conditions -/

namespace Compiler

variable {compiler compiler' : Compiler}

theorem nodeConditions_congr {ns : List ResolvedNode}
    (h : ∀ n ∈ ns, compiler.nodeCondition n = compiler'.nodeCondition n) :
    compiler.nodeConditions ns = compiler'.nodeConditions ns := by
  induction ns with
  | nil => rfl
  | cons n ns ih =>
    obtain ⟨hn, hns⟩ := List.forall_mem_cons.1 h
    rw [nodeConditions, nodeConditions, hn, ih hns]

/-- A node has the same condition under two settings if its clauses have. -/
theorem nodeCondition_congr {n : ResolvedNode}
    (h : ∀ c ∈ n.clauses, compiler.clauseCondition c = compiler'.clauseCondition c) :
    compiler.nodeCondition n = compiler'.nodeCondition n := by
  induction n with
  | clause c => rw [nodeCondition, nodeCondition, h c List.mem_cons_self]
  | group connective ns p ih =>
    have hchildren : ∀ n ∈ ns, compiler.nodeCondition n = compiler'.nodeCondition n :=
      fun n hn => ih n hn fun c hc => h c (ResolvedNode.mem_clausesOfList.2 ⟨n, hn, hc⟩)
    rw [nodeCondition, nodeCondition, nodeConditions_congr hchildren]

theorem condition_eq_error {f : Filter} {e : Error} (h : compiler.resolve f = .error e) :
    compiler.condition f = .error e := by
  rw [condition, h]
  rfl

/-- A filter has the same condition, or the same error, under two settings if it resolves alike and
its resolved clauses have the same conditions. -/
theorem condition_congr {f : Filter} (hresolve : compiler.resolve f = compiler'.resolve f)
    (h : ∀ r, compiler.resolve f = .ok r →
      ∀ c ∈ r.clauses, compiler.clauseCondition c = compiler'.clauseCondition c) :
    compiler.condition f = compiler'.condition f := by
  cases hr : compiler.resolve f with
  | error e =>
    have hr' : compiler'.resolve f = .error e := hresolve.symm.trans hr
    rw [condition_eq_error hr, condition_eq_error hr']
  | ok r =>
    have hr' : compiler'.resolve f = .ok r := hresolve.symm.trans hr
    rw [condition_eq_nodeCondition hr, condition_eq_nodeCondition hr']
    exact nodeCondition_congr (h r hr)

theorem query_congr {f : Filter} (htable : compiler.table = compiler'.table)
    (h : compiler.condition f = compiler'.condition f) :
    compiler.query f = compiler'.query f := by
  rw [query, query, h, htable]

end Compiler

end FilterSql
