import FilterSql.Proofs.Resolution.FirstFailure
import FilterSql.Proofs.Resolution.Lookup

/-!
# A resolved filter, place by place

A resolved filter has the shape of the filter it comes from: the same indexes lead to a group in
both, with as many children, or to a clause in both, or to nothing in both. What stands at a place
is recorded under that place and is what the node at that place of the filter resolves to. The
clauses are listed in the order of their places, each of them once.

## Main definitions

* `FilterSql.ResolvedNode.at?`: the resolved node at a place.
* `FilterSql.Node.Counterpart`: what a node at a place resolves to, its children aside.

## Main results

* `FilterSql.Node.resolve_eq_ok_iff_counterparts`: resolution is agreement place by place.
* `FilterSql.Node.rel_resolve_at?`: what stands at a place is the resolution of what stands there.
* `FilterSql.Node.pairwise_clauses_of_resolve`: the order of the clauses.
* `FilterSql.Filter.resolved_place_by_place`: all of this for a filter.
-/

namespace FilterSql

variable {catalog : Catalog} {table : OperatorTable} {p : Path}

/-! ### Resolved nodes and their places -/

namespace ResolvedNode

/-- The node that some indexes of children lead to. -/
def at? : List Nat → ResolvedNode → Option ResolvedNode
  | [], n => some n
  | _ :: _, .clause _ => none
  | i :: is, .group _ children _ => children[i]?.bind (ResolvedNode.at? is)

/-- The place that a node is recorded under. -/
def path : ResolvedNode → Path
  | .clause c => c.path
  | .group _ _ p => p

/-- The clauses of a node are those at its places. -/
theorem mem_clauses_iff {n : ResolvedNode} {c : ResolvedClause} :
    c ∈ n.clauses ↔ ∃ is, n.at? is = some (.clause c) := by
  induction n with
  | clause d =>
    constructor
    · intro h
      obtain rfl : c = d := by simpa [clauses] using h
      exact ⟨[], rfl⟩
    · rintro ⟨is, his⟩
      cases is with
      | nil => simpa [at?, clauses, eq_comm] using his
      | cons i is => simp [at?] at his
  | group connective ns p ih =>
    rw [clauses, mem_clausesOfList]
    constructor
    · rintro ⟨n, hn, hc⟩
      obtain ⟨i, hi⟩ := List.mem_iff_getElem?.1 hn
      obtain ⟨is, his⟩ := (ih n hn).1 hc
      exact ⟨i :: is, by rw [at?, hi, Option.bind_some, his]⟩
    · rintro ⟨is, his⟩
      cases is with
      | nil => simp [at?] at his
      | cons i is =>
        obtain ⟨n, hi, hn⟩ := Option.bind_eq_some_iff.1 his
        have hmem := List.mem_of_getElem? hi
        exact ⟨n, hmem, (ih n hmem).2 ⟨is, hn⟩⟩

end ResolvedNode

namespace Node

/-- A resolved node is what a node at a place resolves to, its children aside. A clause gets the one
data source of the catalog with its display name, the last operator of the table that it can mean
among the value types of that, and its value under the type which that operator reads. A group gets
its connective, and as many children as it had. -/
inductive Counterpart (catalog : Catalog) (table : OperatorTable) (p : Path) :
    Node → ResolvedNode → Prop
  | clause {c : Clause} {r : ResolvedClause} (hclause : r.clause = c) (hpath : r.path = p)
      (hsource : IsOnly (·.displayName = c.source) catalog.sources r.source)
      (hoperator : IsLast (·.MeantBy c.operator r.source.types) table.operators r.operator)
      (hvalue : Value.read r.operator.readType c.value = .ok r.value) :
      Counterpart catalog table p (.clause c) (.clause r)
  | group {name : Option String} {ns : List Node} {connective : Connective}
      {rs : List ResolvedNode} (hconnective : Connective.ofText? name = some connective)
      (hlength : rs.length = ns.length) :
      Counterpart catalog table p (.group name ns) (.group connective rs p)

/-! ### One step down -/

theorem path_of_resolve {n : Node} {r : ResolvedNode} (h : n.resolve catalog table p = .ok r) :
    r.path = p := by
  cases n with
  | clause c =>
    obtain ⟨r', hr, rfl⟩ := resolve_clause_eq_ok_iff.1 h
    exact (Clause.resolve_eq_ok_iff.1 hr).2.2.2.2
  | group name ns =>
    obtain ⟨connective, rs, -, -, rfl⟩ := resolve_group_eq_ok_iff.1 h
    rfl

/-- The children of a group resolve to as many nodes, each at the place of its index. -/
theorem resolveList_eq_ok_iff {i : Nat} {ns : List Node} {rs : List ResolvedNode} :
    resolveList catalog table p i ns = .ok rs ↔
      rs.length = ns.length ∧ ∀ (j : Nat) (n : Node) (r : ResolvedNode), ns[j]? = some n →
        rs[j]? = some r → n.resolve catalog table (p.child (i + j)) = .ok r := by
  induction ns generalizing i rs with
  | nil => cases rs <;> simp [resolveList]
  | cons m ns ih =>
    constructor
    · intro h
      obtain ⟨r, rs', -, hrs, rfl⟩ := resolveList_cons_eq_ok_iff.1 h
      refine ⟨by simp [(ih.1 hrs).1], fun j n s hn hs => ?_⟩
      obtain ⟨s', hs', hres⟩ := getElem?_of_resolveList_eq_ok h hn
      obtain rfl : s = s' := Option.some.inj (hs.symm.trans hs')
      exact hres
    · rintro ⟨hlength, hchildren⟩
      cases rs with
      | nil => simp at hlength
      | cons r rs =>
        have htail : resolveList catalog table p (i + 1) ns = .ok rs := by
          refine ih.2 ⟨by simpa using hlength, fun j n s hn hs => ?_⟩
          rw [Nat.add_assoc, Nat.add_comm 1 j]
          exact hchildren (j + 1) n s (by simpa using hn) (by simpa using hs)
        exact resolveList_cons_eq_ok_iff.2 ⟨r, rs, hchildren 0 m r rfl rfl, htail, rfl⟩

theorem counterpart_of_resolve {n : Node} {r : ResolvedNode}
    (h : n.resolve catalog table p = .ok r) : n.Counterpart catalog table p r := by
  cases n with
  | clause c =>
    obtain ⟨r', hr, rfl⟩ := resolve_clause_eq_ok_iff.1 h
    obtain ⟨hsource, hoperator, hvalue, hclause, hpath⟩ := Clause.resolve_eq_ok_iff.1 hr
    exact .clause hclause hpath (Catalog.resolve_eq_ok_iff.1 hsource)
      (OperatorTable.resolve_eq_ok_iff.1 hoperator) hvalue
  | group name ns =>
    obtain ⟨connective, rs, hconnective, hrs, rfl⟩ := resolve_group_eq_ok_iff.1 h
    exact .group hconnective (resolveList_eq_ok_iff.1 hrs).1

/-! ### Every place -/

private theorem rel_mono {α β : Type} {r s : α → β → Prop} (h : ∀ a b, r a b → s a b) :
    {a : Option α} → {b : Option β} → Option.Rel r a b → Option.Rel s a b
  | _, _, .none => .none
  | _, _, .some hab => .some (h _ _ hab)

/-- At each place of a node and of what it resolves to there is nothing in both, or else a node in
one and what this resolves to in the other. -/
theorem rel_resolve_at? {n : Node} {r : ResolvedNode} (h : n.resolve catalog table p = .ok r)
    (is : List Nat) :
    Option.Rel (fun m s => m.resolve catalog table ⟨p.indexes ++ is⟩ = .ok s)
      (n.at? is) (r.at? is) := by
  induction is generalizing n r p with
  | nil => exact .some (by simpa using h)
  | cons i is ih =>
    cases n with
    | clause c =>
      obtain ⟨r', -, rfl⟩ := resolve_clause_eq_ok_iff.1 h
      exact .none
    | group name ns =>
      obtain ⟨connective, rs, -, hrs, rfl⟩ := resolve_group_eq_ok_iff.1 h
      obtain ⟨hlength, hchildren⟩ := resolveList_eq_ok_iff.1 hrs
      rw [at?, ResolvedNode.at?]
      by_cases hi : i < ns.length
      · have hn : ns[i]? = some ns[i] := List.getElem?_eq_getElem hi
        have hr : rs[i]? = some rs[i] := List.getElem?_eq_getElem (hlength ▸ hi)
        have hchild := hchildren i _ _ hn hr
        rw [Nat.zero_add] at hchild
        rw [hn, hr]
        simpa using ih hchild
      · rw [List.getElem?_eq_none (by omega), List.getElem?_eq_none (by omega)]
        exact .none

theorem exists_at?_of_resolve {n : Node} {r s : ResolvedNode} {is : List Nat}
    (h : n.resolve catalog table p = .ok r) (hs : r.at? is = some s) :
    ∃ m, n.at? is = some m ∧ m.resolve catalog table ⟨p.indexes ++ is⟩ = .ok s := by
  have hrel := rel_resolve_at? h is
  rw [hs] at hrel
  cases hm : n.at? is with
  | none => simp [hm] at hrel
  | some m => exact ⟨m, rfl, by simpa [hm] using hrel⟩

theorem exists_resolve_of_at? {n m : Node} {r : ResolvedNode} {is : List Nat}
    (h : n.resolve catalog table p = .ok r) (hm : n.at? is = some m) :
    ∃ s, r.at? is = some s ∧ m.resolve catalog table ⟨p.indexes ++ is⟩ = .ok s := by
  have hrel := rel_resolve_at? h is
  rw [hm] at hrel
  cases hs : r.at? is with
  | none => simp [hs] at hrel
  | some s => exact ⟨s, rfl, by simpa [hs] using hrel⟩

/-- A node resolves to what agrees with it at each place. -/
theorem resolve_eq_ok_iff_counterparts {n : Node} {r : ResolvedNode} :
    n.resolve catalog table p = .ok r ↔ ∀ is,
      Option.Rel (Counterpart catalog table ⟨p.indexes ++ is⟩) (n.at? is) (r.at? is) := by
  constructor
  · exact fun h is => rel_mono (fun _ _ => counterpart_of_resolve) (rel_resolve_at? h is)
  · intro h
    induction n generalizing r p with
    | clause c =>
      have hroot : Counterpart catalog table p (.clause c) r := by
        simpa [at?, ResolvedNode.at?] using h []
      obtain ⟨hclause, hpath, hsource, hoperator, hvalue⟩ := hroot
      exact resolve_clause_eq_ok_iff.2 ⟨_, Clause.resolve_eq_ok_iff.2
        ⟨Catalog.resolve_eq_ok_iff.2 hsource, OperatorTable.resolve_eq_ok_iff.2 hoperator, hvalue,
          hclause, hpath⟩, rfl⟩
    | group name ns ih =>
      have hroot : Counterpart catalog table p (.group name ns) r := by
        simpa [at?, ResolvedNode.at?] using h []
      cases hroot with
      | @group _ _ connective rs hconnective hlength =>
        have hchildren : resolveList catalog table p 0 ns = .ok rs := by
          refine resolveList_eq_ok_iff.2 ⟨hlength, fun j n s hn hs => ?_⟩
          refine ih n (List.mem_of_getElem? hn) fun is => ?_
          have hchild := h (j :: is)
          rw [at?, ResolvedNode.at?, hn, hs] at hchild
          simpa using hchild
        exact resolve_group_eq_ok_iff.2 ⟨connective, rs, hconnective, hchildren, rfl⟩

/-! ### The order of clauses -/

mutual

/-- The places of the clauses of a resolved node increase from one clause to the next. -/
theorem pairwise_clauses_of_resolve : (n : Node) → ∀ {p r}, n.resolve catalog table p = .ok r →
    r.clauses.Pairwise fun c d => c.path.indexes < d.path.indexes
  | .clause c, p, r, h => by
    obtain ⟨r', -, rfl⟩ := resolve_clause_eq_ok_iff.1 h
    exact List.pairwise_singleton _ _
  | .group name children, p, r, h => by
    obtain ⟨connective, rs, -, hrs, rfl⟩ := resolve_group_eq_ok_iff.1 h
    exact pairwise_clausesOfList_of_resolve children hrs

theorem pairwise_clausesOfList_of_resolve : (ns : List Node) → ∀ {p i rs},
    resolveList catalog table p i ns = .ok rs →
    (ResolvedNode.clausesOfList rs).Pairwise fun c d => c.path.indexes < d.path.indexes
  | [], p, i, rs, h => by
    cases h
    exact .nil
  | n :: ns, p, i, rs, h => by
    obtain ⟨r, rs', hr, hrs, rfl⟩ := resolveList_cons_eq_ok_iff.1 h
    refine List.pairwise_append.2 ⟨pairwise_clauses_of_resolve n hr,
      pairwise_clausesOfList_of_resolve ns hrs, fun c hc d hd => ?_⟩
    -- the places part at this group: one goes through child `i`, the other through a later one
    obtain ⟨is, hc, -⟩ := at?_of_mem_clauses n hr c hc
    obtain ⟨j, -, js, -, hd, -⟩ := getElem?_of_mem_clausesOfList ns hrs d hd
    rw [hc, hd, Path.indexes_child, List.append_assoc]
    exact List.append_left_lt (List.cons_lt_cons_iff.2 (.inl (by omega)))

end

end Node

/-- Of clauses in the order of their places, each is the only one at its place. -/
theorem ResolvedClause.isOnly_of_pairwise {cs : List ResolvedClause} {c : ResolvedClause}
    (h : cs.Pairwise fun c d => c.path.indexes < d.path.indexes) (hc : c ∈ cs) :
    IsOnly (·.path = c.path) cs c := by
  obtain ⟨before, after, rfl⟩ := List.append_of_mem hc
  obtain ⟨-, hafter, hbefore⟩ := List.pairwise_append.1 h
  refine ⟨before, after, rfl, rfl, List.forall_mem_append.2 ⟨fun d hd hpath => ?_,
    fun d hd hpath => ?_⟩⟩
  · exact List.lt_irrefl _ (hpath ▸ hbefore d hd c List.mem_cons_self)
  · exact List.lt_irrefl _ (hpath ▸ (List.pairwise_cons.1 hafter).1 d hd)

/-! ### Filters -/

namespace Filter

theorem resolve_eq_ok_iff {f : Filter} {r : ResolvedFilter} :
    f.resolve catalog table = .ok r ↔ f.toNode.resolve catalog table .root = .ok r.toNode := by
  rw [Filter.resolve_toNode]
  cases f.resolve catalog table with
  | error e => simp [Except.map]
  | ok s =>
    obtain ⟨connective, children, path⟩ := s
    obtain ⟨connective', children', path'⟩ := r
    simp [Except.map, ResolvedFilter.toNode]

/-- A filter resolves to what agrees with it at each place: in its shape, in the connectives of its
groups, and in the data sources, operators and values of its clauses. The place recorded in a
resolved node then leads from the root of the filter to the node it is the resolution of, and the
clauses are listed in the order of their places, one for each clause of the filter. -/
theorem resolved_place_by_place (catalog : Catalog) (table : OperatorTable) (f : Filter)
    (r : ResolvedFilter) :
    (f.resolve catalog table = .ok r ↔ ∀ is,
      Option.Rel (Node.Counterpart catalog table ⟨is⟩) (f.toNode.at? is) (r.toNode.at? is)) ∧
    (f.resolve catalog table = .ok r →
      (∀ is m, r.toNode.at? is = some m → m.path = ⟨is⟩ ∧
        ∃ n, f.toNode.at? m.path.indexes = some n ∧ n.resolve catalog table m.path = .ok m) ∧
      (∀ is c, f.toNode.at? is = some (.clause c) →
        ∃ d, d.clause = c ∧ IsOnly (·.path = ⟨is⟩) r.clauses d) ∧
      (∀ d ∈ r.clauses, f.toNode.at? d.path.indexes = some (.clause d.clause)) ∧
      r.clauses.Pairwise fun c d => c.path.indexes < d.path.indexes) := by
  refine ⟨resolve_eq_ok_iff.trans Node.resolve_eq_ok_iff_counterparts, fun h => ?_⟩
  have hnode := resolve_eq_ok_iff.1 h
  have hpairwise : r.clauses.Pairwise fun c d => c.path.indexes < d.path.indexes :=
    Node.pairwise_clauses_of_resolve f.toNode hnode
  refine ⟨fun is m hm => ?_, fun is c hc => ?_, fun d hd => ?_, hpairwise⟩
  · obtain ⟨n, hn, hresolve⟩ := Node.exists_at?_of_resolve hnode hm
    have hpath : m.path = ⟨is⟩ := Node.path_of_resolve hresolve
    rw [hpath]
    exact ⟨rfl, n, hn, hresolve⟩
  · obtain ⟨s, hs, hresolve⟩ := Node.exists_resolve_of_at? hnode hc
    obtain ⟨d, hd, rfl⟩ := Node.resolve_clause_eq_ok_iff.1 hresolve
    obtain ⟨-, -, -, hclause, hpath⟩ := Clause.resolve_eq_ok_iff.1 hd
    have hmem : d ∈ r.clauses := ResolvedNode.mem_clauses_iff.2 ⟨is, hs⟩
    exact ⟨d, hclause, hpath ▸ ResolvedClause.isOnly_of_pairwise hpairwise hmem⟩
  · obtain ⟨is, hpath, hat⟩ := Node.at?_of_mem_clauses f.toNode hnode d hd
    rw [hpath]
    exact hat

/-- Below a nested group, beside an empty one and a data source whose name differs in case only, an
operator name that belongs to two value types means the last of its operators. -/
theorem resolved_place_by_place_below_nested_group :
    let flavor : DataSource :=
      { displayName := "Flavor", column := "flavor", types := [.bool, .string] }
    let note : DataSource := { displayName := "flavor", column := "note", types := [.string] }
    let catalog : Catalog := ⟨[flavor, note]⟩
    let mint : Clause := ⟨"Flavor", " IS ", .string "TRUE"⟩
    let f : Filter := ⟨some " Or ", [.clause ⟨"flavor", "contains", .string "Mint"⟩,
      .group none [.group (some "&") [], .clause mint]]⟩
    ∃ r m d, f.resolve catalog .standard = .ok r ∧
      (∀ is, Option.Rel (Node.Counterpart catalog .standard ⟨is⟩)
        (f.toNode.at? is) (r.toNode.at? is)) ∧
      (r.toNode.at? [1] = some m ∧ m.path = ⟨[1]⟩ ∧
        ∃ n, f.toNode.at? m.path.indexes = some n ∧ n.resolve catalog .standard m.path = .ok m) ∧
      (f.toNode.at? [1, 1] = some (.clause mint) ∧ d.clause = mint ∧
        IsOnly (·.path = ⟨[1, 1]⟩) r.clauses d) ∧
      (d ∈ r.clauses ∧ f.toNode.at? d.path.indexes = some (.clause d.clause) ∧
        d.source = flavor ∧ d.operator = { name := "is", type := .bool } ∧ d.value = .bool true) ∧
      r.clauses.Pairwise fun c d => c.path.indexes < d.path.indexes := by
  intro flavor note catalog mint f
  let c : ResolvedClause :=
    ⟨mint, flavor, { name := "is", type := .bool }, .bool true, ⟨[1, 1]⟩⟩
  let first : ResolvedClause := ⟨⟨"flavor", "contains", .string "Mint"⟩, note,
    { name := "contains", type := .string }, .text "Mint", ⟨[0]⟩⟩
  let inner : ResolvedNode := .group .all [.group .all [] ⟨[1, 0]⟩, .clause c] ⟨[1]⟩
  let r : ResolvedFilter := ⟨.any, [.clause first, inner], .root⟩
  have hr : f.resolve catalog .standard = .ok r := by
    dsimp only [r, inner, first, c, f, mint, catalog, note, flavor]
    rfl
  obtain ⟨hmirror, hrecorded⟩ := resolved_place_by_place catalog .standard f r
  obtain ⟨hplaces, hleaves, hlisted, hpairwise⟩ := hrecorded hr
  obtain ⟨d, hclause, honly⟩ := hleaves [1, 1] mint rfl
  have hclauses : r.clauses = [first, c] := rfl
  have hmem : c ∈ r.clauses := by
    rw [hclauses]
    exact List.mem_cons_of_mem _ List.mem_cons_self
  have hd : c = d := honly.eq hmem rfl
  subst hd
  have hplace := hplaces [1] inner rfl
  exact ⟨r, inner, c, hr, hmirror.1 hr, ⟨rfl, hplace⟩, ⟨rfl, hclause, honly⟩,
    ⟨honly.mem, hlisted c honly.mem, rfl, rfl, rfl⟩, hpairwise⟩

end Filter

end FilterSql
