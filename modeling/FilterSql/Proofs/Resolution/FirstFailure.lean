import FilterSql.Proofs.Resolution.Basic

/-!
# The first failure

A filter can have several faults, of which one is reported. Resolution reports the first node in
pre-order that fails on its own, at its place: the places of a filter are ordered by their indexes,
a group before its children and the children in turn. Once a filter resolves, its condition fails
with the first of its clauses that has none, whether or not the group around it would have been left
out.

## Main definitions

* `FilterSql.Node.Fails`: a node that fails on its own, its children aside.
* `FilterSql.Node.FirstFailure`: the first place below a node at which a node fails on its own.

## Main results

* `FilterSql.Node.firstFailure_of_resolve_eq_error`: the error of a node that does not resolve.
* `FilterSql.Node.not_fails_of_resolve_eq_ok`: no node fails in one that resolves.
* `FilterSql.Compiler.firstError_of_nodeCondition_eq_error`: the error of a node without a
  condition.
* `FilterSql.Compiler.error_of_first_failure`: all of this for a whole filter.
-/

namespace FilterSql

variable {catalog : Catalog} {table : OperatorTable} {p : Path} {e : Error}

/-- A node fails on its own: a group for its connective, a clause for its data source, then for its
operator among the value types of that, then for its value. -/
inductive Node.Fails (catalog : Catalog) (table : OperatorTable) : Node → Cause → Prop
  | connective {name : Option String} {children : List Node}
      (h : Connective.ofText? name = none) :
      Fails catalog table (.group name children) (.invalidConnective (name.getD ""))
  | source {c : Clause} {cause : Cause} (h : catalog.resolve c.source = .error cause) :
      Fails catalog table (.clause c) cause
  | operator {c : Clause} {source : DataSource} {cause : Cause}
      (hs : catalog.resolve c.source = .ok source)
      (h : table.resolve c.operator source.types = .error cause) :
      Fails catalog table (.clause c) cause
  | value {c : Clause} {source : DataSource} {op : Operator} {cause : Cause}
      (hs : catalog.resolve c.source = .ok source)
      (ho : table.resolve c.operator source.types = .ok op)
      (h : Value.read op.readType c.value = .error cause) :
      Fails catalog table (.clause c) cause

/-- The node at a place below a node fails on its own, and none before it in pre-order does. -/
def Node.FirstFailure (catalog : Catalog) (table : OperatorTable) (n : Node) (is : List Nat)
    (cause : Cause) : Prop :=
  (∃ m, n.at? is = some m ∧ m.Fails catalog table cause) ∧
    ∀ js < is, ∀ m, n.at? js = some m → ∀ other, ¬ m.Fails catalog table other

theorem Clause.resolve_eq_error_iff {c : Clause} {cause : Cause} :
    c.resolve catalog table p = .error cause ↔ (Node.clause c).Fails catalog table cause := by
  simp only [Clause.resolve, bind_eq_error_iff]
  constructor
  · rintro (h | ⟨source, hs, h | ⟨op, ho, h | ⟨_, _, ⟨⟩⟩⟩⟩)
    · exact .source h
    · exact .operator hs h
    · exact .value hs ho h
  · intro h
    cases h with
    | source h => exact .inl h
    | operator hs h => exact .inr ⟨_, hs, .inl h⟩
    | value hs ho h => exact .inr ⟨_, hs, .inr ⟨_, ho, .inl h⟩⟩

namespace Node

/-- No node fails on its own at or below a node that resolves. -/
theorem not_fails_of_resolve_eq_ok {n m : Node} {r : ResolvedNode} {is : List Nat} {cause : Cause}
    (h : n.resolve catalog table p = .ok r) (hm : n.at? is = some m) :
    ¬ m.Fails catalog table cause := by
  induction is generalizing n p r with
  | nil =>
    obtain rfl : n = m := by simpa [at?] using hm
    intro hfails
    cases n with
    | clause c =>
      obtain ⟨r', hr, -⟩ := resolve_clause_eq_ok_iff.1 h
      rw [Clause.resolve_eq_error_iff.2 hfails] at hr
      cases hr
    | group name children =>
      obtain ⟨connective, -, hc, -, -⟩ := resolve_group_eq_ok_iff.1 h
      cases hfails with
      | connective hnone => simp [hc] at hnone
  | cons i is ih =>
    cases n with
    | clause c => simp [at?] at hm
    | group name children =>
      obtain ⟨connective, rs, -, hrs, -⟩ := resolve_group_eq_ok_iff.1 h
      obtain ⟨k, hk, hkm⟩ := Option.bind_eq_some_iff.1 hm
      obtain ⟨s, -, hs⟩ := getElem?_of_resolveList_eq_ok hrs hk
      exact ih hs hkm

/-- A node that does not resolve has the error of its first failure, at its place. -/
theorem firstFailure_of_resolve_eq_error {n : Node} (h : n.resolve catalog table p = .error e) :
    ∃ is cause, n.FirstFailure catalog table is cause ∧ e = ⟨cause, some ⟨p.indexes ++ is⟩⟩ := by
  induction n generalizing p with
  | clause c =>
    obtain ⟨cause, hc, rfl⟩ := resolve_clause_eq_error_iff.1 h
    refine ⟨[], cause, ⟨⟨_, rfl, Clause.resolve_eq_error_iff.1 hc⟩, by simp⟩, by simp⟩
  | group name children ih =>
    rcases resolve_group_eq_error_iff.1 h with ⟨hc, rfl⟩ | ⟨connective, hc, h⟩
    · exact ⟨[], _, ⟨⟨_, rfl, .connective hc⟩, by simp⟩, by simp⟩
    · obtain ⟨j, n, hn, hfail, hbefore⟩ := exists_of_resolveList_eq_error h
      obtain ⟨is, cause, ⟨⟨m, hm, hfails⟩, hfirst⟩, rfl⟩ :=
        ih n (List.mem_of_getElem? hn) hfail
      have hat (ks : List Nat) : (Node.group name children).at? (j :: ks) = n.at? ks := by
        rw [at?, hn, Option.bind_some]
      refine ⟨j :: is, cause, ⟨⟨m, by rw [hat, hm], hfails⟩, ?_⟩, by simp⟩
      intro js hjs l hl other hother
      -- before the failing child come the group itself, the children before it, and its own nodes
      cases js with
      | nil =>
        obtain rfl : Node.group name children = l := by simpa [at?] using hl
        cases hother with
        | connective hnone => simp [hc] at hnone
      | cons k ks =>
        rcases List.cons_lt_cons_iff.1 hjs with hk | ⟨rfl, hks⟩
        · obtain ⟨n', hn', hl⟩ := Option.bind_eq_some_iff.1 hl
          obtain ⟨r, hr⟩ := hbefore k hk n' hn'
          exact not_fails_of_resolve_eq_ok hr hl hother
        · exact hfirst ks hks l (by rw [← hat, hl]) other hother

mutual

/-- The place of a resolved clause leads to the clause as it was written. -/
theorem at?_of_mem_clauses : (n : Node) → ∀ {p r}, n.resolve catalog table p = .ok r →
    ∀ c ∈ r.clauses, ∃ is, c.path.indexes = p.indexes ++ is ∧ n.at? is = some (.clause c.clause)
  | .clause c, p, r, h => by
    obtain ⟨r', hr, rfl⟩ := resolve_clause_eq_ok_iff.1 h
    obtain ⟨-, -, -, rfl, rfl⟩ := Clause.resolve_eq_ok_iff.1 hr
    intro c hc
    obtain rfl : c = r' := by simpa [ResolvedNode.clauses] using hc
    exact ⟨[], by simp, rfl⟩
  | .group name children, p, r, h => by
    obtain ⟨connective, rs, -, hrs, rfl⟩ := resolve_group_eq_ok_iff.1 h
    intro c hc
    obtain ⟨j, n, is, hn, hpath, hat⟩ := getElem?_of_mem_clausesOfList children hrs c hc
    exact ⟨j :: is, by simpa using hpath, by rw [at?, hn, Option.bind_some, hat]⟩

/-- The place of a resolved clause leads through one of the children of a group. -/
theorem getElem?_of_mem_clausesOfList : (ns : List Node) → ∀ {p i rs},
    resolveList catalog table p i ns = .ok rs → ∀ c ∈ ResolvedNode.clausesOfList rs,
    ∃ (j : Nat) (n : Node) (is : List Nat), ns[j]? = some n ∧
      c.path.indexes = p.indexes ++ (i + j) :: is ∧ n.at? is = some (.clause c.clause)
  | [], p, i, rs, h => by
    cases h
    simp [ResolvedNode.clausesOfList]
  | n :: ns, p, i, rs, h => by
    obtain ⟨r, rs', hr, hrs, rfl⟩ := resolveList_cons_eq_ok_iff.1 h
    intro c hc
    rcases List.mem_append.1 hc with hc | hc
    · obtain ⟨is, hpath, hat⟩ := at?_of_mem_clauses n hr c hc
      exact ⟨0, n, is, rfl, by simpa using hpath, hat⟩
    · obtain ⟨j, m, is, hm, hpath, hat⟩ := getElem?_of_mem_clausesOfList ns hrs c hc
      refine ⟨j + 1, m, is, by simpa using hm, ?_, hat⟩
      rwa [Nat.add_assoc, Nat.add_comm 1 j] at hpath

end

end Node

/-! ### The conditions of clauses -/

namespace Compiler

variable {compiler : Compiler}

mutual

/-- Every clause of a node with a condition has one. -/
theorem clauseCondition_of_nodeCondition_eq_ok : (n : ResolvedNode) → ∀ {part},
    compiler.nodeCondition n = .ok part → ∀ c ∈ n.clauses, ∃ f, compiler.clauseCondition c = .ok f
  | .clause c, part, h => by
    obtain ⟨f, hf, -⟩ := nodeCondition_clause_eq_ok_iff.1 h
    intro d hd
    obtain rfl : d = c := by simpa [ResolvedNode.clauses] using hd
    exact ⟨f, hf⟩
  | .group connective ns p, part, h => by
    obtain ⟨parts, hparts, -⟩ := nodeCondition_group_eq_ok_iff.1 h
    exact clauseCondition_of_nodeConditions_eq_ok ns hparts

theorem clauseCondition_of_nodeConditions_eq_ok : (ns : List ResolvedNode) → ∀ {parts},
    compiler.nodeConditions ns = .ok parts →
    ∀ c ∈ ResolvedNode.clausesOfList ns, ∃ f, compiler.clauseCondition c = .ok f
  | [], _, _ => by simp [ResolvedNode.clausesOfList]
  | n :: ns, parts, h => by
    obtain ⟨part, parts', hn, hns, -⟩ := nodeConditions_cons_eq_ok_iff.1 h
    intro c hc
    rcases List.mem_append.1 hc with hc | hc
    · exact clauseCondition_of_nodeCondition_eq_ok n hn c hc
    · exact clauseCondition_of_nodeConditions_eq_ok ns hns c hc

end

/-- An error is that of the first clause of a list without a condition, at the place of the clause
unless it has one already. -/
def FirstError (compiler : Compiler) (cs : List ResolvedClause) (e : Error) : Prop :=
  ∃ before c after e', cs = before ++ c :: after ∧
    (∀ b ∈ before, ∃ f, compiler.clauseCondition b = .ok f) ∧
    compiler.clauseCondition c = .error e' ∧ e = e'.at c.path

theorem FirstError.append_right {cs : List ResolvedClause} (h : compiler.FirstError cs e)
    (ds : List ResolvedClause) : compiler.FirstError (cs ++ ds) e := by
  obtain ⟨before, c, after, e', rfl, hbefore, hc, he⟩ := h
  exact ⟨before, c, after ++ ds, e', by simp, hbefore, hc, he⟩

theorem FirstError.append_left {cs ds : List ResolvedClause} (h : compiler.FirstError ds e)
    (hcs : ∀ c ∈ cs, ∃ f, compiler.clauseCondition c = .ok f) :
    compiler.FirstError (cs ++ ds) e := by
  obtain ⟨before, c, after, e', rfl, hbefore, hc, he⟩ := h
  exact ⟨cs ++ before, c, after, e', by simp,
    List.forall_mem_append.2 ⟨hcs, hbefore⟩, hc, he⟩

mutual

/-- A node without a condition has the error of the first of its clauses without one. -/
theorem firstError_of_nodeCondition_eq_error : (n : ResolvedNode) →
    compiler.nodeCondition n = .error e → compiler.FirstError n.clauses e
  | .clause c, h => by
    obtain ⟨e', hc, rfl⟩ := nodeCondition_clause_eq_error_iff.1 h
    exact ⟨[], c, [], e', rfl, by simp, hc, rfl⟩
  | .group connective ns p, h =>
    firstError_of_nodeConditions_eq_error ns (nodeCondition_group_eq_error_iff.1 h)

theorem firstError_of_nodeConditions_eq_error : (ns : List ResolvedNode) →
    compiler.nodeConditions ns = .error e → compiler.FirstError (ResolvedNode.clausesOfList ns) e
  | [], h => nomatch h
  | n :: ns, h => by
    rw [ResolvedNode.clausesOfList]
    rcases nodeConditions_cons_eq_error_iff.1 h with hn | ⟨part, hn, hns⟩
    · exact (firstError_of_nodeCondition_eq_error n hn).append_right _
    · exact (firstError_of_nodeConditions_eq_error ns hns).append_left
        (clauseCondition_of_nodeCondition_eq_ok n hn)

end

/-! ### Filters -/

theorem validate_eq_ok_iff {f : Filter} :
    compiler.validate f = .ok () ↔ ∃ r, compiler.resolve f = .ok r := by
  rw [validate]
  cases compiler.resolve f <;> simp [Except.map]

theorem validate_eq_error_iff {f : Filter} :
    compiler.validate f = .error e ↔ compiler.resolve f = .error e := by
  rw [validate]
  cases compiler.resolve f <;> simp [Except.map]

/-- A filter that does not resolve has the error of its first failure. -/
theorem firstFailure_of_resolve_eq_error {f : Filter} (h : compiler.resolve f = .error e) :
    ∃ is cause, f.toNode.FirstFailure compiler.catalog compiler.operators is cause ∧
      e = ⟨cause, some ⟨is⟩⟩ := by
  exact Node.firstFailure_of_resolve_eq_error (resolve_toNode_eq_error h)

/-- A filter fails to resolve where some node fails on its own, with the cause and the place of the
first such node in pre-order. A filter that resolves fails to have a condition where some clause
has none, also in a group that is left out, with the error of the first such clause, at the place
of that clause unless the error has a place already. -/
theorem error_of_first_failure (compiler : Compiler) (f : Filter) :
    ((∃ e, compiler.validate f = .error e) ↔
      ∃ is n cause, f.toNode.at? is = some n ∧
        n.Fails compiler.catalog compiler.operators cause) ∧
    (∀ e, compiler.validate f = .error e →
      ∃ is cause, f.toNode.FirstFailure compiler.catalog compiler.operators is cause ∧
        e.cause = cause ∧ e.path = some ⟨is⟩) ∧
    (compiler.validate f = .ok () → ∃ r, compiler.resolve f = .ok r ∧
      ((∃ e, compiler.condition f = .error e) ↔
        ∃ c ∈ r.clauses, ∃ e, compiler.clauseCondition c = .error e) ∧
      ∀ e, compiler.condition f = .error e →
        ∃ before c after e', r.clauses = before ++ c :: after ∧
          (∀ b ∈ before, ∃ g, compiler.clauseCondition b = .ok g) ∧
          compiler.clauseCondition c = .error e' ∧
          f.toNode.at? c.path.indexes = some (.clause c.clause) ∧
          e.cause = e'.cause ∧ e.path = some (e'.path.getD c.path)) := by
  refine ⟨⟨?_, ?_⟩, ?_, ?_⟩
  · rintro ⟨e, he⟩
    obtain ⟨is, cause, ⟨⟨n, hn, hfails⟩, -⟩, -⟩ :=
      firstFailure_of_resolve_eq_error (validate_eq_error_iff.1 he)
    exact ⟨is, n, cause, hn, hfails⟩
  · rintro ⟨is, n, cause, hn, hfails⟩
    cases hr : compiler.resolve f with
    | error e => exact ⟨e, validate_eq_error_iff.2 hr⟩
    | ok r => exact absurd hfails (Node.not_fails_of_resolve_eq_ok (resolve_toNode_eq_ok hr) hn)
  · intro e he
    obtain ⟨is, cause, hfirst, rfl⟩ :=
      firstFailure_of_resolve_eq_error (validate_eq_error_iff.1 he)
    exact ⟨is, cause, hfirst, rfl, rfl⟩
  · intro hok
    obtain ⟨r, hr⟩ := validate_eq_ok_iff.1 hok
    have hfirst {e : Error} (he : compiler.condition f = .error e) :
        compiler.FirstError r.clauses e :=
      firstError_of_nodeCondition_eq_error r.toNode (by rwa [← condition_eq_nodeCondition hr])
    refine ⟨r, hr, ⟨?_, ?_⟩, ?_⟩
    · rintro ⟨e, he⟩
      obtain ⟨before, c, after, e', hclauses, -, hc, -⟩ := hfirst he
      exact ⟨c, by simp [hclauses], e', hc⟩
    · rintro ⟨c, hc, e, he⟩
      cases hcond : compiler.condition f with
      | error e' => exact ⟨e', rfl⟩
      | ok part =>
        obtain ⟨g, hg⟩ := clauseCondition_of_nodeCondition_eq_ok r.toNode
          (by rwa [← condition_eq_nodeCondition hr]) c hc
        cases he.symm.trans hg
    · intro e he
      obtain ⟨before, c, after, e', hclauses, hbefore, hc, rfl⟩ := hfirst he
      have hmem : c ∈ r.toNode.clauses := by simp [hclauses]
      obtain ⟨is, hpath, hat⟩ := Node.at?_of_mem_clauses f.toNode (resolve_toNode_eq_ok hr) c hmem
      have hindexes : c.path.indexes = is := by simpa using hpath
      exact ⟨before, c, after, e', hclauses, hbefore, hc, hindexes ▸ hat, rfl, rfl⟩

/-- Of an unknown data source, an unknown connective and an operator of another value type the first
in pre-order is reported, and a clause without a condition is reported beside an empty group that
lifts the restriction. -/
theorem error_of_first_failure_among_several :
    let f : Filter := ⟨some "|", [.group none [.clause ⟨"Flavor", "is", .string "Mint"⟩,
      .clause ⟨"Topping", "is", .string "Nuts"⟩], .group (some "xor") [],
      .clause ⟨"Flavor", "is set", .bool true⟩]⟩
    let compiler : Compiler :=
      { sample with operators := ⟨[{ name := "resembles", type := .string }]⟩ }
    let g : Filter := ⟨some "or", [.group none [],
      .clause ⟨"Flavor", "resembles", .string "Mint"⟩]⟩
    (sample.validate f = .error ⟨.unknownDataSource "Topping", some ⟨[0, 1]⟩⟩ ∧
      ∃ is cause, f.toNode.FirstFailure sample.catalog sample.operators is cause ∧
        Cause.unknownDataSource "Topping" = cause ∧ some (Path.mk [0, 1]) = some ⟨is⟩) ∧
    compiler.validate g = .ok () ∧
    compiler.condition g = .error ⟨.unsupportedOperator "resembles", some ⟨[1]⟩⟩ ∧
    ∃ r, compiler.resolve g = .ok r ∧
      ∃ c ∈ r.clauses, ∃ e, compiler.clauseCondition c = .error e := by
  intro f compiler g
  have hf : sample.validate f = .error ⟨.unknownDataSource "Topping", some ⟨[0, 1]⟩⟩ := rfl
  have hok : compiler.validate g = .ok () := rfl
  have hcond : compiler.condition g =
      .error ⟨.unsupportedOperator "resembles", some ⟨[1]⟩⟩ := rfl
  obtain ⟨r, hr, hiff, -⟩ := (error_of_first_failure compiler g).2.2 hok
  exact ⟨⟨hf, (error_of_first_failure sample f).2.1 _ hf⟩, hok, hcond, r, hr, hiff.1 ⟨_, hcond⟩⟩

end Compiler

end FilterSql
