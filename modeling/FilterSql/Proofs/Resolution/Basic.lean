import FilterSql.Compiler
import FilterSql.Proofs.Outcome

/-!
# The steps of resolution and compilation

What a success and what a failure say about the parts of a filter: the equations of `Node.resolve`
and of `Compiler.nodeCondition` read backwards, node by node, so that later proofs never open
either. A filter and its resolution are treated as the group at their root.

## Main definitions

* `FilterSql.Node.at?`: the node at a place of a filter.
* `FilterSql.ResolvedFilter.toNode`: a resolved filter as the group at its root.

## Main results

* `FilterSql.Clause.resolve_eq_ok_iff`: the parts of a resolved clause.
* `FilterSql.Node.resolve_group_eq_ok_iff`, `FilterSql.Node.resolve_group_eq_error_iff`: the
  outcomes for a group.
* `FilterSql.Node.getElem?_of_resolveList_eq_ok`, `FilterSql.Node.exists_of_resolveList_eq_error`:
  the outcomes for the children of a group, by their indexes.
* `FilterSql.Node.resolve_of_mem_clauses`: the clauses of a node that resolves.
* `FilterSql.Filter.resolve_toNode`: a filter resolves as the group at its root does.
* `FilterSql.Compiler.nodeConditions_cons_eq_ok_iff`,
  `FilterSql.Compiler.nodeConditions_cons_eq_error_iff`: the conditions of the nodes of a group.
* `FilterSql.Compiler.condition_eq_nodeCondition`: the condition of a filter is that of its root.
* `FilterSql.Compiler.query_eq_ok_iff`: the parts of a query.
-/

namespace FilterSql

/-! ### Nodes and their places -/

/-- A statement holds of every node if it holds of clauses and, given that it holds of the children
of a group, of the group. -/
@[elab_as_elim, induction_eliminator]
theorem Node.induction {motive : Node → Prop} (clause : ∀ c, motive (.clause c))
    (group : ∀ name children, (∀ n ∈ children, motive n) → motive (.group name children))
    (n : Node) : motive n :=
  @Node.rec motive (fun ns => ∀ n ∈ ns, motive n) clause group (by simp)
    (fun _ _ hn hns => List.forall_mem_cons.2 ⟨hn, hns⟩) n

/-- The node that some indexes of children lead to. -/
def Node.at? : List Nat → Node → Option Node
  | [], n => some n
  | _ :: _, .clause _ => none
  | i :: is, .group _ children => children[i]?.bind (Node.at? is)

/-- A statement holds of every resolved node if it holds of clauses and, given that it holds of the
children of a group, of the group. -/
@[elab_as_elim, induction_eliminator]
theorem ResolvedNode.induction {motive : ResolvedNode → Prop}
    (clause : ∀ c, motive (.clause c))
    (group : ∀ connective children p, (∀ n ∈ children, motive n) →
      motive (.group connective children p)) (n : ResolvedNode) : motive n :=
  @ResolvedNode.rec motive (fun ns => ∀ n ∈ ns, motive n) clause group (by simp)
    (fun _ _ hn hns => List.forall_mem_cons.2 ⟨hn, hns⟩) n

theorem ResolvedNode.mem_clausesOfList {c : ResolvedClause} {ns : List ResolvedNode} :
    c ∈ clausesOfList ns ↔ ∃ n ∈ ns, c ∈ n.clauses := by
  induction ns with
  | nil => simp [clausesOfList]
  | cons n ns ih => simp [clausesOfList, ih]

@[simp] theorem Path.indexes_root : Path.root.indexes = [] := rfl

@[simp] theorem Path.indexes_child (p : Path) (index : Nat) :
    (p.child index).indexes = p.indexes ++ [index] := rfl

variable {catalog : Catalog} {table : OperatorTable} {p : Path} {e : Error}

/-! ### Clauses -/

/-- A clause finds a data source of the catalog. -/
theorem Catalog.mem_of_resolve {name : String} {source : DataSource}
    (h : catalog.resolve name = .ok source) : source ∈ catalog.sources := by
  rw [resolve] at h
  split at h
  case h_1 => cases h
  case h_2 hfilter =>
    cases h
    have hmem : source ∈ catalog.sources.filter (·.displayName == name) := by
      rw [hfilter]
      exact List.mem_cons_self
    exact (List.mem_filter.1 hmem).1
  case h_3 => cases h

/-- A clause finds an operator of the table. -/
theorem OperatorTable.mem_of_resolve {name : String} {types : List ValueType} {op : Operator}
    (h : table.resolve name types = .ok op) : op ∈ table.operators := by
  rw [OperatorTable.resolve] at h
  split at h
  case h_1 op' hlast =>
    cases h
    exact (List.mem_filter.1 (List.mem_of_getLast? hlast)).1
  case h_2 => cases h

/-- A clause resolves to its data source, its operator among the value types of that, and its value
under the type that the operator reads. -/
theorem Clause.resolve_eq_ok_iff {c : Clause} {r : ResolvedClause} :
    c.resolve catalog table p = .ok r ↔
      catalog.resolve c.source = .ok r.source ∧
      table.resolve c.operator r.source.types = .ok r.operator ∧
      Value.read r.operator.readType c.value = .ok r.value ∧ r.clause = c ∧ r.path = p := by
  simp only [Clause.resolve, bind_eq_ok_iff]
  constructor
  · rintro ⟨source, hs, op, ho, v, hv, ⟨⟩⟩
    exact ⟨hs, ho, hv, rfl, rfl⟩
  · obtain ⟨c', source, op, v, p'⟩ := r
    rintro ⟨hs, ho, hv, rfl, rfl⟩
    exact ⟨source, hs, op, ho, v, hv, rfl⟩

/-! ### Groups -/

theorem Connective.resolve_eq_ok_iff {name : Option String} {c : Connective} :
    Connective.resolve p name = .ok c ↔ Connective.ofText? name = some c := by
  rw [Connective.resolve]
  cases Connective.ofText? name <;> simp

theorem Connective.resolve_eq_error_iff {name : Option String} :
    Connective.resolve p name = .error e ↔
      Connective.ofText? name = none ∧ e = ⟨.invalidConnective (name.getD ""), some p⟩ := by
  rw [Connective.resolve]
  cases Connective.ofText? name <;> simp [Error.at, eq_comm]

namespace Node

theorem resolve_clause_eq_ok_iff {c : Clause} {r : ResolvedNode} :
    (Node.clause c).resolve catalog table p = .ok r ↔
      ∃ r', c.resolve catalog table p = .ok r' ∧ r = .clause r' := by
  rw [Node.resolve]
  cases c.resolve catalog table p <;> simp [eq_comm]

theorem resolve_clause_eq_error_iff {c : Clause} :
    (Node.clause c).resolve catalog table p = .error e ↔
      ∃ cause, c.resolve catalog table p = .error cause ∧ e = ⟨cause, some p⟩ := by
  rw [Node.resolve]
  cases c.resolve catalog table p <;> simp [Error.at, eq_comm]

theorem resolve_group_eq_ok_iff {name : Option String} {ns : List Node} {r : ResolvedNode} :
    (Node.group name ns).resolve catalog table p = .ok r ↔
      ∃ connective rs, Connective.ofText? name = some connective ∧
        resolveList catalog table p 0 ns = .ok rs ∧ r = .group connective rs p := by
  simp only [Node.resolve, bind_eq_ok_iff, Connective.resolve_eq_ok_iff]
  constructor
  · rintro ⟨connective, hc, rs, hrs, ⟨⟩⟩
    exact ⟨connective, rs, hc, hrs, rfl⟩
  · rintro ⟨connective, rs, hc, hrs, rfl⟩
    exact ⟨connective, hc, rs, hrs, rfl⟩

/-- A group fails for its connective, or else for one of its children. -/
theorem resolve_group_eq_error_iff {name : Option String} {ns : List Node} :
    (Node.group name ns).resolve catalog table p = .error e ↔
      (Connective.ofText? name = none ∧ e = ⟨.invalidConnective (name.getD ""), some p⟩) ∨
      ∃ connective, Connective.ofText? name = some connective ∧
        resolveList catalog table p 0 ns = .error e := by
  simp only [Node.resolve, bind_eq_error_iff, Connective.resolve_eq_error_iff,
    Connective.resolve_eq_ok_iff]
  refine or_congr_right (exists_congr fun connective => and_congr_right fun _ => ?_)
  constructor
  · rintro (h | ⟨rs, _, ⟨⟩⟩)
    exact h
  · exact .inl

theorem resolveList_cons_eq_ok_iff {i : Nat} {n : Node} {ns : List Node}
    {rs : List ResolvedNode} :
    resolveList catalog table p i (n :: ns) = .ok rs ↔
      ∃ r rs', n.resolve catalog table (p.child i) = .ok r ∧
        resolveList catalog table p (i + 1) ns = .ok rs' ∧ rs = r :: rs' := by
  simp only [resolveList, bind_eq_ok_iff]
  constructor
  · rintro ⟨r, hr, rs', hrs, ⟨⟩⟩
    exact ⟨r, rs', hr, hrs, rfl⟩
  · rintro ⟨r, rs', hr, hrs, rfl⟩
    exact ⟨r, hr, rs', hrs, rfl⟩

/-- Each child of a group that resolves does so at the place of its index. -/
theorem getElem?_of_resolveList_eq_ok {i : Nat} {ns : List Node} {rs : List ResolvedNode}
    (h : resolveList catalog table p i ns = .ok rs) {j : Nat} {n : Node} (hn : ns[j]? = some n) :
    ∃ r, rs[j]? = some r ∧ n.resolve catalog table (p.child (i + j)) = .ok r := by
  induction ns generalizing i j rs with
  | nil => simp at hn
  | cons m ns ih =>
    obtain ⟨r, rs', hr, hrs, rfl⟩ := resolveList_cons_eq_ok_iff.1 h
    cases j with
    | zero =>
      obtain rfl : m = n := by simpa using hn
      exact ⟨r, rfl, hr⟩
    | succ j =>
      obtain ⟨s, hs, hns⟩ := ih hrs (j := j) (by simpa using hn)
      exact ⟨s, by simpa using hs, by rwa [Nat.add_assoc, Nat.add_comm 1 j] at hns⟩

/-- Where the children of a group fail, one of them does and those before it resolve. -/
theorem exists_of_resolveList_eq_error {i : Nat} {ns : List Node}
    (h : resolveList catalog table p i ns = .error e) :
    ∃ (j : Nat) (n : Node), ns[j]? = some n ∧
      n.resolve catalog table (p.child (i + j)) = .error e ∧
      ∀ k < j, ∀ m : Node, ns[k]? = some m →
        ∃ r, m.resolve catalog table (p.child (i + k)) = .ok r := by
  induction ns generalizing i with
  | nil => simp [resolveList] at h
  | cons m ns ih =>
    simp only [resolveList, bind_eq_error_iff] at h
    rcases h with h | ⟨r, hr, h | ⟨_, _, ⟨⟩⟩⟩
    · exact ⟨0, m, rfl, h, by simp⟩
    · obtain ⟨j, n, hn, hfail, hbefore⟩ := ih h
      refine ⟨j + 1, n, by simpa using hn, by rwa [Nat.add_assoc, Nat.add_comm 1 j] at hfail, ?_⟩
      intro k hk l hl
      cases k with
      | zero =>
        obtain rfl : m = l := by simpa using hl
        exact ⟨r, hr⟩
      | succ k =>
        obtain ⟨s, hs⟩ := hbefore k (by omega) l (by simpa using hl)
        exact ⟨s, by rwa [Nat.add_assoc, Nat.add_comm 1 k] at hs⟩

mutual

/-- The clauses of a resolved node are resolutions of the clauses it was written with. -/
theorem resolve_of_mem_clauses : (n : Node) → ∀ {p r}, n.resolve catalog table p = .ok r →
    ∀ c ∈ r.clauses, c.clause.resolve catalog table c.path = .ok c
  | .clause c, p, r, h => by
    obtain ⟨r', hr, rfl⟩ := resolve_clause_eq_ok_iff.1 h
    intro d hd
    obtain rfl : d = r' := by simpa [ResolvedNode.clauses] using hd
    obtain ⟨-, -, -, rfl, rfl⟩ := Clause.resolve_eq_ok_iff.1 hr
    exact hr
  | .group name children, p, r, h => by
    obtain ⟨connective, rs, -, hrs, rfl⟩ := resolve_group_eq_ok_iff.1 h
    exact resolve_of_mem_clausesOfList children hrs

theorem resolve_of_mem_clausesOfList : (ns : List Node) → ∀ {p i rs},
    resolveList catalog table p i ns = .ok rs →
    ∀ c ∈ ResolvedNode.clausesOfList rs, c.clause.resolve catalog table c.path = .ok c
  | [], p, i, rs, h => by
    cases h
    simp [ResolvedNode.clausesOfList]
  | n :: ns, p, i, rs, h => by
    obtain ⟨r, rs', hr, hrs, rfl⟩ := resolveList_cons_eq_ok_iff.1 h
    intro c hc
    rcases List.mem_append.1 hc with hc | hc
    · exact resolve_of_mem_clauses n hr c hc
    · exact resolve_of_mem_clausesOfList ns hrs c hc

end

end Node

/-! ### Whole filters -/

/-- A compiler for examples: a text and a number of a table, without overrides. -/
def Compiler.sample : Compiler where
  table := "ice_cream"
  catalog := ⟨[{ displayName := "Flavor", column := "flavor", types := [.string] },
    { displayName := "Scoops", column := "num_scoops", types := [.numeric, .nullable] }]⟩
  operators := .standard
  now := ⟨0⟩
  overrides := .empty

/-- A resolved filter as the group at its root. -/
def ResolvedFilter.toNode (r : ResolvedFilter) : ResolvedNode :=
  .group r.connective r.children r.path

@[simp] theorem ResolvedFilter.clauses_toNode (r : ResolvedFilter) :
    r.toNode.clauses = r.clauses := rfl

/-- A filter resolves as the group at its root does. -/
theorem Filter.resolve_toNode (f : Filter) :
    f.toNode.resolve catalog table .root =
      (f.resolve catalog table).map ResolvedFilter.toNode := by
  rw [Filter.resolve, Filter.toNode, Node.resolve]
  cases Connective.resolve .root f.connective with
  | error e => rfl
  | ok connective =>
    cases Node.resolveList catalog table .root 0 f.children <;>
      simp [bind, Except.bind, pure, Except.pure, Except.map, ResolvedFilter.toNode]

/-! ### The conditions of nodes -/

namespace Compiler

variable {compiler : Compiler}

/-- Without overrides every clause has its default condition. -/
theorem clauseCondition_eq_defaultCondition (h : compiler.overrides = .empty)
    (c : ResolvedClause) : compiler.clauseCondition c = compiler.defaultCondition c := by
  rw [clauseCondition, h]
  rfl

theorem nodeCondition_clause_eq_ok_iff {c : ResolvedClause} {part : Option Fragment} :
    compiler.nodeCondition (.clause c) = .ok part ↔
      ∃ f, compiler.clauseCondition c = .ok f ∧ some f = part := by
  rw [nodeCondition]
  cases compiler.clauseCondition c <;> simp

theorem nodeCondition_clause_eq_error_iff {c : ResolvedClause} :
    compiler.nodeCondition (.clause c) = .error e ↔
      ∃ e', compiler.clauseCondition c = .error e' ∧ e'.at c.path = e := by
  rw [nodeCondition]
  cases compiler.clauseCondition c <;> simp

theorem nodeCondition_group_eq_ok_iff {connective : Connective} {ns : List ResolvedNode}
    {part : Option Fragment} :
    compiler.nodeCondition (.group connective ns p) = .ok part ↔
      ∃ parts, compiler.nodeConditions ns = .ok parts ∧ joinConditions connective parts = part := by
  rw [nodeCondition, bind_eq_ok_iff]
  simp [pure, Except.pure]

theorem nodeCondition_group_eq_error_iff {connective : Connective} {ns : List ResolvedNode} :
    compiler.nodeCondition (.group connective ns p) = .error e ↔
      compiler.nodeConditions ns = .error e := by
  rw [nodeCondition, bind_eq_error_iff]
  simp [pure, Except.pure]

theorem nodeConditions_cons_eq_ok_iff {n : ResolvedNode} {ns : List ResolvedNode}
    {parts : List (Option Fragment)} :
    compiler.nodeConditions (n :: ns) = .ok parts ↔
      ∃ part parts', compiler.nodeCondition n = .ok part ∧
        compiler.nodeConditions ns = .ok parts' ∧ part :: parts' = parts := by
  simp [nodeConditions, bind_eq_ok_iff, pure, Except.pure]

theorem nodeConditions_cons_eq_error_iff {n : ResolvedNode} {ns : List ResolvedNode} :
    compiler.nodeConditions (n :: ns) = .error e ↔
      compiler.nodeCondition n = .error e ∨
        ∃ part, compiler.nodeCondition n = .ok part ∧ compiler.nodeConditions ns = .error e := by
  simp [nodeConditions, bind_eq_error_iff, pure, Except.pure]

/-! ### Filters as nodes -/

theorem resolve_toNode_eq_ok {f : Filter} {r : ResolvedFilter} (h : compiler.resolve f = .ok r) :
    f.toNode.resolve compiler.catalog compiler.operators .root = .ok r.toNode := by
  rw [Filter.resolve_toNode]
  exact congrArg (Except.map ResolvedFilter.toNode) h

theorem resolve_toNode_eq_error {f : Filter} (h : compiler.resolve f = .error e) :
    f.toNode.resolve compiler.catalog compiler.operators .root = .error e := by
  rw [Filter.resolve_toNode]
  exact congrArg (Except.map ResolvedFilter.toNode) h

/-- The condition of a filter that resolves is that of the group at its root. -/
theorem condition_eq_nodeCondition {f : Filter} {r : ResolvedFilter}
    (h : compiler.resolve f = .ok r) : compiler.condition f = compiler.nodeCondition r.toNode := by
  rw [condition, h]
  rfl

/-- A query selects from a table, under the condition of its filter or every row. -/
theorem query_eq_ok_iff {f : Filter} {q : Fragment} :
    compiler.query f = .ok q ↔
      ∃ part name, compiler.condition f = .ok part ∧ Identifier.read compiler.table = .ok name ∧
        ((Fragment.sql "SELECT * FROM ").push name).push " WHERE " ++
          part.getD (.sql "TRUE") = q := by
  rw [query, bind_eq_ok_iff]
  refine exists_congr fun part => ?_
  rw [exists_and_left, selectQuery, Fragment.pushIdentifier]
  refine and_congr_right fun _ => ?_
  cases Identifier.read compiler.table with
  | error cause => exact ⟨nofun, nofun⟩
  | ok name =>
    constructor
    · intro h
      cases part <;> cases h <;> exact ⟨name, rfl, rfl⟩
    · rintro ⟨_, ⟨⟩, rfl⟩
      cases part <;> rfl

end Compiler

end FilterSql
