import Mathlib.Data.List.ReduceOption
import FilterSql.Proofs.Condition.Shape
import FilterSql.Proofs.Resolution.Basic

/-!
# The text of a condition does not depend on values

Two filters with the same data sources, operators and connectives at the same places may have other
values. As long as no clause has an override and the values of each place have the same shape under
its operator, their conditions have the same text and the same number of parameters, and so have
their queries.

## Main definitions

* `FilterSql.Skeleton`: what is left of a node without its values.
* `FilterSql.Filter.skeleton`: what is left of a filter.

## Main results

* `FilterSql.Compiler.veil_joinConditions`: a veiled group joins the veiled conditions of its
  children.
* `FilterSql.Compiler.veil_nodeCondition_eq`: nodes with the same skeleton have the same condition
  once veiled.
* `FilterSql.Compiler.surface_eq_of_skeleton_eq`: filters with the same skeleton have the same text.
-/

namespace FilterSql

/-! ### Skeletons -/

/-- A node without its values. -/
inductive Skeleton where
  /-- The data source and the operator of a clause. -/
  | clause (source operator : String)
  /-- A group with its connective, if that is known. -/
  | group (connective : Option Connective) (children : List Skeleton)

mutual

/-- What is left of a node without its values. -/
def Node.skeleton : Node → Skeleton
  | .clause c => .clause c.source c.operator
  | .group name children => .group (Connective.ofText? name) (Node.skeletons children)
termination_by structural n => n

/-- What is left of the nodes of a group without their values. -/
def Node.skeletons : List Node → List Skeleton
  | [] => []
  | n :: ns => n.skeleton :: Node.skeletons ns
termination_by structural ns => ns

end

/-- What is left of a filter without its values. -/
def Filter.skeleton (f : Filter) : Skeleton :=
  f.toNode.skeleton

/-- Clauses at the same place have values of the same shape under their operators. -/
def ResolvedClause.SameShapes (cs ds : List ResolvedClause) : Prop :=
  ∀ c ∈ cs, ∀ d ∈ ds, c.path = d.path → c.value.shape c.operator = d.value.shape d.operator

instance (cs ds : List ResolvedClause) : Decidable (ResolvedClause.SameShapes cs ds) :=
  inferInstanceAs (Decidable (∀ c ∈ cs, ∀ d ∈ ds, c.path = d.path → _))

/-! ### Conditions of clauses and groups -/

namespace Compiler

variable {compiler : Compiler}

theorem clauseCondition_eq_ok_iff (h : compiler.overrides = .empty)
    {c : ResolvedClause} {f : Fragment} :
    compiler.clauseCondition c = .ok f ↔
      Condition.build c.source.column c.operator c.value compiler.now = .ok f := by
  have hlookup : compiler.overrides.lookup c.source.displayName c.operator.type = none := by
    rw [h]
    rfl
  rw [clauseCondition, hlookup]
  dsimp only
  rw [Environment.defaultCondition]
  cases Condition.build c.source.column c.operator c.value compiler.now <;> simp

/-- A veiled group joins the veiled conditions of its children. -/
theorem veil_joinConditions (connective : Connective) (parts : List (Option Fragment)) :
    (joinConditions connective parts).map Fragment.veil =
      joinConditions connective (parts.map (Option.map Fragment.veil)) := by
  have hconditions : (parts.map (Option.map Fragment.veil)).filterMap id =
      (parts.filterMap id).map Fragment.veil := List.reduceOption_map
  have hnone : (parts.map (Option.map Fragment.veil)).any Option.isNone =
      parts.any Option.isNone := by
    simp [Function.comp_def]
  rw [joinConditions, joinConditions, hconditions, hnone, List.isEmpty_map]
  split
  · rfl
  · rw [Option.map_some, Fragment.veil_parenthesize, Fragment.veil_join]

/-- The query of a veiled condition is the veiled query. -/
theorem veil_selectQuery (table : String) (condition : Option Fragment) :
    (selectQuery table condition).map Fragment.veil =
      selectQuery table (condition.map Fragment.veil) := by
  rw [selectQuery, selectQuery, Fragment.pushIdentifier]
  cases Identifier.read table with
  | error e => rfl
  | ok name => cases condition <;> simp [bind, Except.bind, pure, Except.pure, Except.map]

/-- The conditions of two resolutions of clauses that name the same data source and operator. -/
private theorem veil_clauseCondition_eq (hempty : compiler.overrides = .empty) {p : Path}
    {c d : Clause} {r s : ResolvedClause} {f g : Fragment} (hsource : c.source = d.source)
    (hoperator : c.operator = d.operator)
    (hr : c.resolve compiler.catalog compiler.operators p = .ok r)
    (hs : d.resolve compiler.catalog compiler.operators p = .ok s)
    (hshape : r.value.shape r.operator = s.value.shape s.operator)
    (hf : compiler.clauseCondition r = .ok f) (hg : compiler.clauseCondition s = .ok g) :
    f.veil = g.veil := by
  obtain ⟨hrsource, hroperator, -⟩ := Clause.resolve_eq_ok_iff.1 hr
  obtain ⟨hssource, hsoperator, -⟩ := Clause.resolve_eq_ok_iff.1 hs
  have hsources : r.source = s.source := by
    rw [hsource, hssource] at hrsource
    exact (Except.ok.inj hrsource).symm
  have hoperators : r.operator = s.operator := by
    rw [hoperator, hsources, hsoperator] at hroperator
    exact (Except.ok.inj hroperator).symm
  rw [clauseCondition_eq_ok_iff hempty] at hf hg
  rw [hsources, hoperators] at hf
  rw [hoperators] at hshape
  exact Condition.veil_eq_of_build hshape hf hg

mutual

/-- Two nodes with the same skeleton have, at the same place, the same condition once veiled. -/
theorem veil_nodeCondition_eq (hempty : compiler.overrides = .empty) :
    (n m : Node) → ∀ {p : Path} {r s : ResolvedNode} {a b : Option Fragment},
    n.skeleton = m.skeleton →
    n.resolve compiler.catalog compiler.operators p = .ok r →
    m.resolve compiler.catalog compiler.operators p = .ok s →
    ResolvedClause.SameShapes r.clauses s.clauses →
    compiler.nodeCondition r = .ok a → compiler.nodeCondition s = .ok b →
    a.map Fragment.veil = b.map Fragment.veil
  | .clause c, .clause d, p, r, s, a, b, hskeleton, hr, hs, hshapes, ha, hb => by
    obtain ⟨hsource, hoperator⟩ : c.source = d.source ∧ c.operator = d.operator := by
      simpa [Node.skeleton] using hskeleton
    obtain ⟨r', hr', rfl⟩ := Node.resolve_clause_eq_ok_iff.1 hr
    obtain ⟨s', hs', rfl⟩ := Node.resolve_clause_eq_ok_iff.1 hs
    obtain ⟨f, hf, rfl⟩ := nodeCondition_clause_eq_ok_iff.1 ha
    obtain ⟨g, hg, rfl⟩ := nodeCondition_clause_eq_ok_iff.1 hb
    have hpath : r'.path = s'.path :=
      (Clause.resolve_eq_ok_iff.1 hr').2.2.2.2.trans (Clause.resolve_eq_ok_iff.1 hs').2.2.2.2.symm
    have hshape := hshapes r' List.mem_cons_self s' List.mem_cons_self hpath
    exact congrArg some (veil_clauseCondition_eq hempty hsource hoperator hr' hs' hshape hf hg)
  | .group name ns, .group name' ms, p, r, s, a, b, hskeleton, hr, hs, hshapes, ha, hb => by
    obtain ⟨hname, hskeletons⟩ : Connective.ofText? name = Connective.ofText? name' ∧
        Node.skeletons ns = Node.skeletons ms := by
      simpa [Node.skeleton] using hskeleton
    obtain ⟨connective, rs, hc, hrs, rfl⟩ := Node.resolve_group_eq_ok_iff.1 hr
    obtain ⟨connective', ss, hc', hss, rfl⟩ := Node.resolve_group_eq_ok_iff.1 hs
    obtain rfl : connective = connective' :=
      Option.some.inj (hc.symm.trans (hname.trans hc'))
    obtain ⟨parts, hparts, rfl⟩ := nodeCondition_group_eq_ok_iff.1 ha
    obtain ⟨parts', hparts', rfl⟩ := nodeCondition_group_eq_ok_iff.1 hb
    have hveil := veil_nodeConditions_eq hempty ns ms hskeletons hrs hss hshapes hparts hparts'
    rw [veil_joinConditions, veil_joinConditions, hveil]
  | .clause _, .group _ _, _, _, _, _, _, hskeleton, _, _, _, _, _ => by
    simp [Node.skeleton] at hskeleton
  | .group _ _, .clause _, _, _, _, _, _, hskeleton, _, _, _, _, _ => by
    simp [Node.skeleton] at hskeleton

/-- The same for the children of two groups. -/
theorem veil_nodeConditions_eq (hempty : compiler.overrides = .empty) :
    (ns ms : List Node) → ∀ {p : Path} {i : Nat} {rs ss : List ResolvedNode}
      {parts parts' : List (Option Fragment)},
    Node.skeletons ns = Node.skeletons ms →
    Node.resolveList compiler.catalog compiler.operators p i ns = .ok rs →
    Node.resolveList compiler.catalog compiler.operators p i ms = .ok ss →
    ResolvedClause.SameShapes (ResolvedNode.clausesOfList rs) (ResolvedNode.clausesOfList ss) →
    compiler.nodeConditions rs = .ok parts → compiler.nodeConditions ss = .ok parts' →
    parts.map (Option.map Fragment.veil) = parts'.map (Option.map Fragment.veil)
  | [], [], _, _, _, _, _, _, _, hrs, hss, _, hparts, hparts' => by
    cases hrs
    cases hss
    cases hparts
    cases hparts'
    rfl
  | n :: ns, m :: ms, p, i, rs, ss, parts, parts', hskeletons, hrs, hss, hshapes, hparts,
      hparts' => by
    obtain ⟨hskeleton, hrests⟩ := List.cons.inj hskeletons
    obtain ⟨r, rs, hr, hrs', rfl⟩ := Node.resolveList_cons_eq_ok_iff.1 hrs
    obtain ⟨s, ss, hs, hss', rfl⟩ := Node.resolveList_cons_eq_ok_iff.1 hss
    obtain ⟨a, as, ha, has, rfl⟩ := nodeConditions_cons_eq_ok_iff.1 hparts
    obtain ⟨b, bs, hb, hbs, rfl⟩ := nodeConditions_cons_eq_ok_iff.1 hparts'
    have hfirst : ResolvedClause.SameShapes r.clauses s.clauses := fun c hc d hd =>
      hshapes c (List.mem_append_left _ hc) d (List.mem_append_left _ hd)
    have hrest : ResolvedClause.SameShapes (ResolvedNode.clausesOfList rs)
        (ResolvedNode.clausesOfList ss) := fun c hc d hd =>
      hshapes c (List.mem_append_right _ hc) d (List.mem_append_right _ hd)
    rw [List.map_cons, List.map_cons, veil_nodeCondition_eq hempty n m hskeleton hr hs hfirst ha hb,
      veil_nodeConditions_eq hempty ns ms hrests hrs' hss' hrest has hbs]
  | [], _ :: _, _, _, _, _, _, _, hskeletons, _, _, _, _, _ => by
    simp [Node.skeletons] at hskeletons
  | _ :: _, [], _, _, _, _, _, _, hskeletons, _, _, _, _, _ => by
    simp [Node.skeletons] at hskeletons

end

/-! ### Filters -/

/-- A query shows no more than its condition does. -/
private theorem surface_query_eq {f g : Filter} {a b : Option Fragment}
    (ha : compiler.condition f = .ok a) (hb : compiler.condition g = .ok b)
    (h : a.map Fragment.veil = b.map Fragment.veil) :
    (compiler.query f).map Fragment.surface = (compiler.query g).map Fragment.surface := by
  have hquery {f : Filter} {a : Option Fragment} (ha : compiler.condition f = .ok a) :
      (compiler.query f).map Fragment.surface =
        ((selectQuery compiler.table (a.map Fragment.veil)).mapError fun cause =>
          (⟨cause, none⟩ : Error)).map Fragment.surface := by
    rw [query, ha, ← veil_selectQuery]
    change ((selectQuery compiler.table a).mapError _).map _ = _
    cases selectQuery compiler.table a with
    | error e => rfl
    | ok q => exact congrArg Except.ok (Fragment.surface_veil q).symm
  rw [hquery ha, hquery hb, h]

/-- Without overrides, two filters with the same data sources, operators and connectives, whose
values have the same shapes place by place, have conditions with the same text and the same number
of parameters, or both have none. So have their queries. -/
theorem surface_eq_of_skeleton_eq (compiler : Compiler) (hempty : compiler.overrides = .empty)
    (f g : Filter) (hskeleton : f.skeleton = g.skeleton) {r s : ResolvedFilter}
    (hr : compiler.resolve f = .ok r) (hs : compiler.resolve g = .ok s)
    (hshapes : ResolvedClause.SameShapes r.clauses s.clauses) {a b : Option Fragment}
    (ha : compiler.condition f = .ok a) (hb : compiler.condition g = .ok b) :
    a.map Fragment.surface = b.map Fragment.surface ∧
      (compiler.query f).map Fragment.surface = (compiler.query g).map Fragment.surface := by
  have hcondition {f : Filter} {r : ResolvedFilter} {a : Option Fragment}
      (hr : compiler.resolve f = .ok r) (ha : compiler.condition f = .ok a) :
      compiler.nodeCondition r.toNode = .ok a := by
    rw [← condition_eq_nodeCondition hr, ha]
  have hveil : a.map Fragment.veil = b.map Fragment.veil :=
    veil_nodeCondition_eq hempty f.toNode g.toNode hskeleton (resolve_toNode_eq_ok hr)
      (resolve_toNode_eq_ok hs) hshapes (hcondition hr ha) (hcondition hs hb)
  have hsurface (a : Option Fragment) :
      a.map Fragment.surface = (a.map Fragment.veil).map Fragment.surface := by
    rw [Option.map_map]
    exact congrFun (congrArg Option.map (funext fun f => (Fragment.surface_veil f).symm)) a
  exact ⟨by rw [hsurface, hveil, ← hsurface], surface_query_eq ha hb hveil⟩

/-- Whatever flavor and number a filter asks for, it is not seen in the text. -/
theorem surface_eq_of_skeleton_eq_beside_numbers :
    let filter (flavor scoops : String) : Filter := ⟨none,
      [.clause ⟨"Flavor", "is", .string flavor⟩, .group (some "or")
        [.clause ⟨"Scoops", ">=", .string scoops⟩, .clause ⟨"Scoops", "is set", .bool true⟩]]⟩
    let f := filter "Mint" "3"
    let g := filter "' OR $1 = ?" "-17"
    ∃ r s a b, sample.overrides = .empty ∧ f.skeleton = g.skeleton ∧
      sample.resolve f = .ok r ∧ sample.resolve g = .ok s ∧
      ResolvedClause.SameShapes r.clauses s.clauses ∧
      sample.condition f = .ok a ∧ sample.condition g = .ok b ∧
      a.map Fragment.surface = b.map Fragment.surface ∧
      (sample.query f).map Fragment.surface = (sample.query g).map Fragment.surface := by
  intro filter f g
  refine ⟨_, _, _, _, rfl, rfl, rfl, rfl, ?shapes, rfl, rfl,
    surface_eq_of_skeleton_eq sample rfl f g rfl rfl rfl ?shapes rfl rfl⟩
  decide

end Compiler

end FilterSql
