import FilterSql.Proofs.Resolution.Agreement

/-!
# Resolved filters seen through a map

A map on resolved clauses and one on places change a resolved node and keep its shape. Two settings
under which clauses resolve alike up to such a map resolve whole filters alike up to it, and two
nodes that are alike up to it have the same condition if their clauses have.

## Main definitions

* `FilterSql.ResolvedNode.map`: a resolved node with its clauses and places changed.

## Main results

* `FilterSql.ResolvedNode.clauses_map`: the clauses of such a node.
* `FilterSql.Node.map_resolve_congr`: nodes resolve alike up to a map if their clauses do.
* `FilterSql.Compiler.nodeCondition_congr_map`: nodes that are alike up to a map have the same
  condition.
-/

namespace FilterSql

mutual

/-- A resolved node with its clauses changed, and the places of its groups. -/
def ResolvedNode.map (change : ResolvedClause → ResolvedClause) (move : Path → Path) :
    ResolvedNode → ResolvedNode
  | .clause c => .clause (change c)
  | .group connective children p =>
    .group connective (ResolvedNode.mapList change move children) (move p)
termination_by structural n => n

/-- Resolved nodes with their clauses changed, and the places of their groups. -/
def ResolvedNode.mapList (change : ResolvedClause → ResolvedClause) (move : Path → Path) :
    List ResolvedNode → List ResolvedNode
  | [] => []
  | n :: ns => n.map change move :: ResolvedNode.mapList change move ns
termination_by structural ns => ns

end

namespace ResolvedNode

variable {change : ResolvedClause → ResolvedClause} {move : Path → Path}

theorem mapList_eq_map (ns : List ResolvedNode) :
    mapList change move ns = ns.map (ResolvedNode.map change move) := by
  induction ns with
  | nil => rfl
  | cons n ns ih => rw [mapList, List.map_cons, ih]

@[simp] theorem map_clause (c : ResolvedClause) :
    (clause c).map change move = clause (change c) := rfl

@[simp] theorem map_group (connective : Connective) (ns : List ResolvedNode) (p : Path) :
    (group connective ns p).map change move =
      group connective (ns.map (ResolvedNode.map change move)) (move p) := by
  rw [map, mapList_eq_map]

/-- The clauses of a changed node are the changed clauses of the node. -/
theorem clauses_map (n : ResolvedNode) :
    (n.map change move).clauses = n.clauses.map change := by
  induction n with
  | clause c => rfl
  | group connective ns p ih =>
    rw [map_group, clauses, clauses]
    induction ns with
    | nil => rfl
    | cons n ns ihns =>
      obtain ⟨hn, hns⟩ := List.forall_mem_cons.1 ih
      rw [List.map_cons, clausesOfList, clausesOfList, List.map_append, hn, ihns hns]

end ResolvedNode

/-! ### Resolution under two settings -/

namespace Node

variable {catalog catalog' : Catalog} {table table' : OperatorTable}
  {change : ResolvedClause → ResolvedClause}

theorem map_resolveList_congr {ns : List Node}
    (h : ∀ n ∈ ns, ∀ p, (n.resolve catalog table p).map (ResolvedNode.map change id) =
      (n.resolve catalog' table' p).map (ResolvedNode.map change id)) (p : Path) (i : Nat) :
    (resolveList catalog table p i ns).map (List.map (ResolvedNode.map change id)) =
      (resolveList catalog' table' p i ns).map (List.map (ResolvedNode.map change id)) := by
  induction ns generalizing i with
  | nil => rfl
  | cons n ns ih =>
    obtain ⟨hn, hns⟩ := List.forall_mem_cons.1 h
    rw [resolveList, resolveList]
    refine map_bind_congr (hn _) fun r s hr => map_bind_congr (ih hns _) fun rs ss hrs => ?_
    exact congrArg Except.ok (by rw [List.map_cons, List.map_cons, hr, hrs])

/-- A node resolves alike under two settings, up to a map on clauses, if its clauses do. -/
theorem map_resolve_congr {n : Node}
    (h : ∀ c, n.HasClause c → ∀ p,
      (c.resolve catalog table p).map change = (c.resolve catalog' table' p).map change)
    (p : Path) : (n.resolve catalog table p).map (ResolvedNode.map change id) =
      (n.resolve catalog' table' p).map (ResolvedNode.map change id) := by
  induction n generalizing p with
  | clause c =>
    rw [Node.resolve, Node.resolve]
    obtain ⟨cause, hx, hy⟩ | ⟨r, s, hx, hy, hrs⟩ :=
      outcomes_of_map_eq (h c (hasClause_clause_iff.2 rfl) p)
    · rw [hx, hy]
    · rw [hx, hy]
      exact congrArg (Except.ok ∘ ResolvedNode.clause) hrs
  | group name ns ih =>
    have hchildren := map_resolveList_congr fun n hn =>
      ih n hn fun c hc => h c (hasClause_group_iff.2 ⟨n, hn, hc⟩)
    rw [Node.resolve, Node.resolve]
    refine map_bind_congr (f := id) rfl fun connective connective' hconnective => ?_
    refine map_bind_congr (hchildren p 0) fun rs ss hrs => congrArg Except.ok ?_
    rw [ResolvedNode.map_group, ResolvedNode.map_group, hrs]
    exact congrArg (ResolvedNode.group · _ _) hconnective

end Node

/-! ### Conditions under two settings -/

namespace Compiler

variable {compiler compiler' : Compiler} {change : ResolvedClause → ResolvedClause}

theorem nodeConditions_congr_map {ns ms : List ResolvedNode}
    (h : ∀ n ∈ ns, ∀ m, n.map change id = m.map change id →
      compiler.nodeCondition n = compiler'.nodeCondition m)
    (hmap : ns.map (ResolvedNode.map change id) = ms.map (ResolvedNode.map change id)) :
    compiler.nodeConditions ns = compiler'.nodeConditions ms := by
  induction ns generalizing ms with
  | nil =>
    cases ms with
    | nil => rfl
    | cons m ms => cases hmap
  | cons n ns ih =>
    cases ms with
    | nil => cases hmap
    | cons m ms =>
      obtain ⟨hn, hns⟩ := List.forall_mem_cons.1 h
      obtain ⟨hhead, htail⟩ := List.cons.inj hmap
      rw [nodeConditions, nodeConditions, hn m hhead, ih hns htail]

/-- Nodes that are alike up to a map on clauses have the same condition under two settings if their
clauses have. -/
theorem nodeCondition_congr_map
    (h : ∀ c d, change c = change d →
      compiler.nodeCondition (.clause c) = compiler'.nodeCondition (.clause d))
    {n m : ResolvedNode} (hmap : n.map change id = m.map change id) :
    compiler.nodeCondition n = compiler'.nodeCondition m := by
  induction n generalizing m with
  | clause c =>
    cases m with
    | clause d => exact h c d (ResolvedNode.clause.inj hmap)
    | group connective ms p =>
      rw [ResolvedNode.map_group] at hmap
      cases hmap
  | group connective ns p ih =>
    rw [ResolvedNode.map_group] at hmap
    cases m with
    | clause d => cases hmap
    | group connective' ms p' =>
      rw [ResolvedNode.map_group] at hmap
      obtain ⟨rfl, hchildren, -⟩ := ResolvedNode.group.inj hmap
      rw [nodeCondition, nodeCondition,
        nodeConditions_congr_map (fun n hn m => ih n hn (m := m)) hchildren]

end Compiler

end FilterSql
