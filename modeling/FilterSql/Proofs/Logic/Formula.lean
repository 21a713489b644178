import Mathlib.Data.List.ReduceOption
import FilterSql.Proofs.Logic.Truth
import FilterSql.Proofs.Resolution.Basic

/-!
# The formula of a filter

The condition of a filter is the text of a formula over its clauses: groups without a restriction
are gone from it, and every group that is left has a condition. Leaving them out does not change
what the filter means. Whatever the clauses are for a row, the formula has the truth that the
filter itself has when it is evaluated as it stands, node by node.

## Main definitions

* `FilterSql.Formula`: clauses under groups, none of which is empty.
* `FilterSql.Formula.render`: the fragment that writes a formula.
* `FilterSql.Formula.truth`: the truth of a formula.
* `FilterSql.Filter.truth?`: the truth of a filter, by direct evaluation.
* `FilterSql.ResolvedNode.formula?`: the formula of a resolved node, if it puts a restriction on
  rows.

## Main results

* `FilterSql.Compiler.nodeCondition_eq_render`: the condition of a node renders its formula.
* `FilterSql.Node.truth?_eq_of_resolve`: the truth of a node is that of its formula.
* `FilterSql.Compiler.condition_renders_formula`: both for a whole filter.
-/

namespace FilterSql

/-- A formula over clauses. -/
inductive Formula where
  /-- The condition of a clause. -/
  | clause (c : ResolvedClause)
  /-- The formulas of a group, of which there is a first one. -/
  | group (connective : Connective) (first : Formula) (rest : List Formula)

namespace Formula

mutual

/-- The clauses of a formula, in order. -/
def clauses : Formula → List ResolvedClause
  | .clause c => [c]
  | .group _ first rest => first.clauses ++ clausesOfList rest
termination_by structural φ => φ

/-- The clauses of a list of formulas, in order. -/
def clausesOfList : List Formula → List ResolvedClause
  | [] => []
  | φ :: φs => φ.clauses ++ clausesOfList φs
termination_by structural φs => φs

end

mutual

/-- The fragment that writes a formula, given those of its clauses: the parts of a group stand
between its separators, inside one pair of parentheses. -/
def render (fragment : ResolvedClause → Fragment) : Formula → Fragment
  | .clause c => fragment c
  | .group connective first rest =>
    (Fragment.join connective.separator
      (first.render fragment :: renderList fragment rest)).parenthesize
termination_by structural φ => φ

/-- The fragments that write a list of formulas. -/
def renderList (fragment : ResolvedClause → Fragment) : List Formula → List Fragment
  | [] => []
  | φ :: φs => φ.render fragment :: renderList fragment φs
termination_by structural φs => φs

end

mutual

/-- The truth of a formula, given that of the clause at each place. -/
def truth (v : Path → Truth) : Formula → Truth
  | .clause c => v c.path
  | .group connective first rest => connective.truth (first.truth v :: truths v rest)
termination_by structural φ => φ

/-- The truth of each formula of a list. -/
def truths (v : Path → Truth) : List Formula → List Truth
  | [] => []
  | φ :: φs => φ.truth v :: truths v φs
termination_by structural φs => φs

end

/-- The truth of what may be a formula; no formula is no restriction. -/
def truthOrTrue (v : Path → Truth) (φ : Option Formula) : Truth :=
  φ.elim .true (truth v)

theorem renderList_eq_map (fragment : ResolvedClause → Fragment) :
    (φs : List Formula) → renderList fragment φs = φs.map (render fragment)
  | [] => rfl
  | φ :: φs => by rw [renderList, renderList_eq_map fragment φs, List.map_cons]

theorem truths_eq_map (v : Path → Truth) : (φs : List Formula) → truths v φs = φs.map (truth v)
  | [] => rfl
  | φ :: φs => by rw [truths, truths_eq_map v φs, List.map_cons]

theorem mem_clausesOfList {c : ResolvedClause} {φs : List Formula} :
    c ∈ clausesOfList φs ↔ ∃ φ ∈ φs, c ∈ φ.clauses := by
  induction φs with
  | nil => simp [clausesOfList]
  | cons φ φs ih => simp [clausesOfList, ih]

/-! ### Groups without a restriction -/

/-- The formula of a group from those of its children, of which the ones without a restriction have
none. -/
def join (connective : Connective) (parts : List (Option Formula)) : Option Formula :=
  match parts.filterMap id with
  | [] => none
  | φ :: φs =>
    if connective == .any && parts.any Option.isNone then none
    else some (.group connective φ φs)

/-- The condition of a group renders its formula where those of its children render theirs. -/
theorem joinConditions_render (fragment : ResolvedClause → Fragment) (connective : Connective)
    (parts : List (Option Formula)) :
    Compiler.joinConditions connective (parts.map (Option.map (render fragment))) =
      (join connective parts).map (render fragment) := by
  have hconditions : (parts.map (Option.map (render fragment))).filterMap id =
      (parts.filterMap id).map (render fragment) := List.reduceOption_map
  have hnone : (parts.map (Option.map (render fragment))).any Option.isNone =
      parts.any Option.isNone := by
    simp [Function.comp_def]
  rw [Compiler.joinConditions, hconditions, hnone, join]
  cases parts.filterMap id with
  | nil => rfl
  | cons φ φs =>
    cases connective == .any && parts.any Option.isNone with
    | true => simp
    | false => simp [render, renderList_eq_map]

private theorem any_isNone_iff {parts : List (Option Formula)} :
    parts.any Option.isNone = true ↔ none ∈ parts := by
  simp [List.any_eq_true, Option.isNone_iff_eq_none]

/-- Leaving out the groups without a restriction keeps the truth of a group. -/
theorem truthOrTrue_join (v : Path → Truth) (connective : Connective)
    (parts : List (Option Formula)) :
    truthOrTrue v (join connective parts) = connective.truth (parts.map (truthOrTrue v)) := by
  by_cases h : connective = .any ∧ none ∈ parts
  · obtain ⟨rfl, hnone⟩ := h
    have hany : parts.any Option.isNone := any_isNone_iff.2 hnone
    rw [Connective.truth_any_of_mem (List.mem_map.2 ⟨none, hnone, rfl⟩), join]
    cases parts.filterMap id <;> simp [hany, truthOrTrue]
  · have hkeep : (connective == .any && parts.any Option.isNone) = false := by
      rw [← Bool.not_eq_true, Bool.and_eq_true, beq_iff_eq, any_isNone_iff]
      exact h
    have htruth : connective.truth ((parts.filterMap id).map (truth v)) =
        connective.truth (parts.map (truthOrTrue v)) :=
      Connective.truth_filterMap (truth v) fun hany hnone => h ⟨hany, hnone⟩
    rw [← htruth, join]
    cases parts.filterMap id with
    | nil => rfl
    | cons φ φs => simp [hkeep, truthOrTrue, truth, truths_eq_map]

/-- The clauses of the formula of a group are clauses of its parts. -/
theorem exists_mem_of_join {connective : Connective} {parts : List (Option Formula)} {φ : Formula}
    (h : join connective parts = some φ) {c : ResolvedClause} (hc : c ∈ φ.clauses) :
    ∃ ψ, some ψ ∈ parts ∧ c ∈ ψ.clauses := by
  have hmem {ψ : Formula} (hψ : ψ ∈ parts.filterMap id) : some ψ ∈ parts := by simpa using hψ
  rw [join] at h
  cases hparts : parts.filterMap id with
  | nil =>
    rw [hparts] at h
    cases h
  | cons ψ ψs =>
    rw [hparts] at h hmem
    dsimp only at h
    split at h
    · cases h
    · cases h
      rw [clauses, List.mem_append, mem_clausesOfList] at hc
      rcases hc with hc | ⟨χ, hχ, hc⟩
      · exact ⟨ψ, hmem List.mem_cons_self, hc⟩
      · exact ⟨χ, hmem (List.mem_cons_of_mem ψ hχ), hc⟩

/-! ### The least truth of a formula -/

mutual

/-- A formula all of whose clauses are false is false. -/
theorem truth_false : (φ : Formula) → φ.truth (fun _ => .false) = .false
  | .clause _ => rfl
  | .group connective first rest => by
    rw [truth]
    refine Connective.truth_eq_false_of_forall connective fun s hs => ?_
    rcases List.mem_cons.1 hs with rfl | hs
    · exact truth_false first
    · exact truths_false rest s hs

theorem truths_false : (φs : List Formula) → ∀ s ∈ truths (fun _ => .false) φs, s = .false
  | [], _, hs => by simp [truths] at hs
  | φ :: φs, s, hs => by
    rcases List.mem_cons.1 hs with rfl | hs
    · exact truth_false φ
    · exact truths_false φs s hs

end

/-- A condition is lifted for all rows only where there is no formula. -/
theorem eq_none_iff_forall_truthOrTrue {φ : Option Formula} :
    φ = none ↔ ∀ v, truthOrTrue v φ = .true := by
  constructor
  · rintro rfl v
    rfl
  · intro h
    cases φ with
    | none => rfl
    | some φ =>
      have hfalse : truthOrTrue (fun _ => .false) (some φ) = .false := truth_false φ
      rw [h] at hfalse
      cases hfalse

end Formula

/-! ### Direct evaluation -/

mutual

/-- The truth of a node at its place, by direct evaluation, given that of the clause at each place.
There is none where the connective of a group is unknown. -/
def Node.truth? (v : Path → Truth) (p : Path) : Node → Option Truth
  | .clause _ => some (v p)
  | .group name children => do
    let connective ← Connective.ofText? name
    let ts ← Node.truths? v p 0 children
    return connective.truth ts
termination_by structural n => n

/-- The truth of the children of a group from the one with an index on. -/
def Node.truths? (v : Path → Truth) (p : Path) (index : Nat) : List Node → Option (List Truth)
  | [] => some []
  | n :: ns => do
    let t ← n.truth? v (p.child index)
    let ts ← Node.truths? v p (index + 1) ns
    return t :: ts
termination_by structural ns => ns

end

/-- The truth of a filter, by direct evaluation. -/
def Filter.truth? (v : Path → Truth) (f : Filter) : Option Truth :=
  f.toNode.truth? v .root

/-! ### The formula of a resolved node -/

namespace ResolvedNode

mutual

/-- The formula of a node, if it puts a restriction on rows. -/
def formula? : ResolvedNode → Option Formula
  | .clause c => some (.clause c)
  | .group connective children _ => Formula.join connective (formulas children)
termination_by structural n => n

/-- The formulas of the nodes of a group. -/
def formulas : List ResolvedNode → List (Option Formula)
  | [] => []
  | n :: ns => n.formula? :: formulas ns
termination_by structural ns => ns

end

mutual

/-- The clauses of a formula are clauses of the node it is for. -/
theorem clauses_of_formula? : (n : ResolvedNode) → ∀ φ ∈ n.formula?, ∀ c ∈ φ.clauses, c ∈ n.clauses
  | .clause c, φ, hφ => by
    obtain rfl : Formula.clause c = φ := by simpa [formula?] using hφ
    exact fun _ h => h
  | .group connective children _, φ, hφ => by
    intro c hc
    obtain ⟨ψ, hψ, hc⟩ := Formula.exists_mem_of_join hφ hc
    exact clauses_of_formulas children ψ hψ c hc

theorem clauses_of_formulas : (ns : List ResolvedNode) →
    ∀ φ, some φ ∈ formulas ns → ∀ c ∈ φ.clauses, c ∈ clausesOfList ns
  | [], φ, hφ => by simp [formulas] at hφ
  | n :: ns, φ, hφ => by
    intro c hc
    rw [clausesOfList, List.mem_append]
    rcases List.mem_cons.1 hφ with hφ | hφ
    · exact .inl (clauses_of_formula? n φ hφ.symm c hc)
    · exact .inr (clauses_of_formulas ns φ hφ c hc)

end

end ResolvedNode

variable {compiler : Compiler} {catalog : Catalog} {table : OperatorTable}

mutual

/-- The condition of a node whose clauses have conditions renders its formula. -/
theorem Compiler.nodeCondition_eq_render (fragment : ResolvedClause → Fragment) :
    (n : ResolvedNode) →
    (∀ c ∈ n.clauses, compiler.clauseCondition c = .ok (fragment c)) →
    compiler.nodeCondition n = .ok (n.formula?.map (Formula.render fragment))
  | .clause c, h => by
    rw [Compiler.nodeCondition, h c List.mem_cons_self]
    rfl
  | .group connective children _, h => by
    rw [Compiler.nodeCondition, Compiler.nodeConditions_eq_render fragment children h,
      ResolvedNode.formula?, ← Formula.joinConditions_render]
    rfl

/-- The conditions of nodes whose clauses have conditions render their formulas. -/
theorem Compiler.nodeConditions_eq_render (fragment : ResolvedClause → Fragment) :
    (ns : List ResolvedNode) →
    (∀ c ∈ ResolvedNode.clausesOfList ns, compiler.clauseCondition c = .ok (fragment c)) →
    compiler.nodeConditions ns =
      .ok ((ResolvedNode.formulas ns).map (Option.map (Formula.render fragment)))
  | [], _ => rfl
  | n :: ns, h => by
    have hn := Compiler.nodeCondition_eq_render fragment n fun c hc =>
      h c (List.mem_append_left _ hc)
    have hns := Compiler.nodeConditions_eq_render fragment ns fun c hc =>
      h c (List.mem_append_right _ hc)
    rw [Compiler.nodeConditions, hn, hns]
    rfl

end

mutual

/-- The truth of a node by direct evaluation is that of the formula of its resolution. -/
theorem Node.truth?_eq_of_resolve (v : Path → Truth) : (n : Node) → ∀ {p r},
    n.resolve catalog table p = .ok r → n.truth? v p = some (Formula.truthOrTrue v r.formula?)
  | .clause c, p, r, h => by
    obtain ⟨r', hr, rfl⟩ := Node.resolve_clause_eq_ok_iff.1 h
    have hp : r'.path = p := (Clause.resolve_eq_ok_iff.1 hr).2.2.2.2
    rw [Node.truth?, ← hp]
    rfl
  | .group name children, p, r, h => by
    obtain ⟨connective, rs, hc, hrs, rfl⟩ := Node.resolve_group_eq_ok_iff.1 h
    have hts := Node.truths?_eq_of_resolveList v children hrs
    rw [Node.truth?, hc, hts, ResolvedNode.formula?, Formula.truthOrTrue_join]
    rfl

/-- The truth of the children of a group is that of their formulas. -/
theorem Node.truths?_eq_of_resolveList (v : Path → Truth) : (ns : List Node) → ∀ {p i rs},
    Node.resolveList catalog table p i ns = .ok rs →
    Node.truths? v p i ns = some ((ResolvedNode.formulas rs).map (Formula.truthOrTrue v))
  | [], p, i, rs, h => by
    cases h
    rfl
  | n :: ns, p, i, rs, h => by
    obtain ⟨r, rs', hr, hrs, rfl⟩ := Node.resolveList_cons_eq_ok_iff.1 h
    rw [Node.truths?, Node.truth?_eq_of_resolve v n hr, Node.truths?_eq_of_resolveList v ns hrs]
    rfl

end

/-! ### Filters -/

/-- The condition of a filter whose clauses all have conditions is the text of a formula over its
clauses, no formula standing for no restriction. For every truth of the clauses the formula has the
truth of the filter, and there is none exactly where the filter is true whatever the clauses
are. -/
theorem Compiler.condition_renders_formula (compiler : Compiler) (f : Filter)
    (fragment : ResolvedClause → Fragment) {r : ResolvedFilter} (hr : compiler.resolve f = .ok r)
    (hc : ∀ c ∈ r.clauses, compiler.clauseCondition c = .ok (fragment c)) :
    ∃ φ : Option Formula,
      (∀ ψ ∈ φ, ∀ c ∈ ψ.clauses, c ∈ r.clauses) ∧
      compiler.condition f = .ok (φ.map (Formula.render fragment)) ∧
      (∀ v, f.truth? v = some (φ.elim .true (Formula.truth v))) ∧
      (compiler.condition f = .ok none ↔ ∀ v, f.truth? v = some .true) := by
  have hrender : compiler.condition f =
      .ok (r.toNode.formula?.map (Formula.render fragment)) := by
    rw [condition_eq_nodeCondition hr]
    exact nodeCondition_eq_render fragment r.toNode hc
  have htruth (v : Path → Truth) :
      f.truth? v = some (Formula.truthOrTrue v r.toNode.formula?) :=
    Node.truth?_eq_of_resolve v f.toNode (resolve_toNode_eq_ok hr)
  refine ⟨r.toNode.formula?, ResolvedNode.clauses_of_formula? r.toNode, hrender, htruth, ?_⟩
  simp only [hrender, htruth, Except.ok.injEq, Option.map_eq_none_iff, Option.some.injEq]
  exact Formula.eq_none_iff_forall_truthOrTrue

/-- An empty group next to a clause is left out of a group whose conditions all have to hold, and
lifts a group one of whose conditions has to hold. -/
theorem Compiler.condition_renders_formula_beside_empty_groups :
    let clause : Node := .clause ⟨"Scoops", ">=", .string "2"⟩
    let f : Filter := ⟨some "&", [.group none [], clause,
      .group (some "or") [clause, .group none []],
      .group (some "|") [clause, .group (some "&") [clause, .group (some "|") []]]]⟩
    ∃ r fragment, sample.resolve f = .ok r ∧
      (∀ c ∈ r.clauses, sample.clauseCondition c = .ok (fragment c)) ∧
      ∃ φ : Option Formula,
        (∀ ψ ∈ φ, ∀ c ∈ ψ.clauses, c ∈ r.clauses) ∧
        sample.condition f = .ok (φ.map (Formula.render fragment)) ∧
        (∀ v, f.truth? v = some (φ.elim .true (Formula.truth v))) ∧
        (sample.condition f = .ok none ↔ ∀ v, f.truth? v = some .true) := by
  intro clause f
  refine ⟨_, fun c => (sample.clauseCondition c).toOption.getD .empty, rfl, ?clauses,
    condition_renders_formula sample f _ rfl ?clauses⟩
  simp only [ResolvedFilter.clauses, ResolvedNode.clausesOfList, ResolvedNode.clauses,
    List.append_nil, List.nil_append, List.cons_append, List.forall_mem_cons]
  exact ⟨rfl, rfl, rfl, rfl, by simp⟩

end FilterSql
