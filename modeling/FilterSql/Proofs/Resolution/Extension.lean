import FilterSql.Proofs.Override.Registry
import FilterSql.Proofs.Resolution.Agreement

/-!
# A further operator

A further operator stands at the end of the table, where it is found before the operators that were
there. It captures the names that mean it, some of which may have found another operator, and no
others. So a filter none of whose clauses means it gets the same answers and the same errors as
before.

A condition can depend on the operators through an override as well, since that is built from the
whole environment: one that asks for an operator changes its condition with the table. Overrides
given by their steps make the same of a clause under every table.

## Main definitions

* `FilterSql.Override.IgnoresOperators`, `FilterSql.Overrides.IgnoreOperators`: overrides that do
  not depend on the operators.

## Main results

* `FilterSql.Clause.resolve_push`: clauses that do not mean a further operator resolve as before.
* `FilterSql.Recipe.ignoresOperators`: overrides given by their steps do not look at the operators.
* `FilterSql.Compiler.push_conservative`: what a further operator changes and what it does not.
-/

namespace FilterSql

/-! ### Resolution -/

/-- A clause resolves as before if a further operator is not meant by its operator among the value
types of the data source that it finds. -/
theorem Clause.resolve_push {catalog : Catalog} {table table' : OperatorTable} {op : Operator}
    (h : table.push op = .ok table') {c : Clause}
    (hc : ∀ source, catalog.resolve c.source = .ok source → ¬ op.MeantBy c.operator source.types)
    (p : Path) : c.resolve catalog table' p = c.resolve catalog table p := by
  rw [Clause.resolve, Clause.resolve]
  cases hsource : catalog.resolve c.source with
  | error cause => rfl
  | ok source =>
    have hoperator : table'.resolve c.operator source.types =
        table.resolve c.operator source.types :=
      (OperatorTable.resolve_push h c.operator source.types).2 (hc source hsource)
    simp only [bind, Except.bind, hoperator]

/-! ### Overrides that ignore the operators -/

/-- An override makes the same of a clause whatever operators there are. -/
def Override.IgnoresOperators (override : Override) : Prop :=
  ∀ env operators c, override { env with operators } c = override env c

/-- Every registered override makes the same of a clause whatever operators there are. -/
def Overrides.IgnoreOperators (overrides : Overrides) : Prop :=
  ∀ source type override,
    overrides.lookup source type = some override → override.IgnoresOperators

theorem RecipeStep.run_ignores_operators (step : RecipeStep) (env : Environment)
    (operators : OperatorTable) (c : ResolvedClause) (f : Fragment) :
    step.run { env with operators } c f = step.run env c f := by
  cases step <;> rfl

/-- An override given by its steps does not look at the operators. -/
theorem Recipe.ignoresOperators (recipe : Recipe) : recipe.override.IgnoresOperators := by
  intro env operators c
  have hstep : RecipeStep.run { env with operators } c = RecipeStep.run env c :=
    funext fun f => funext fun step => step.run_ignores_operators env operators c f
  rw [Recipe.override, Recipe.override, hstep]

namespace Overrides

theorem ignoreOperators_empty : empty.IgnoreOperators :=
  each_empty

/-- Calls one after another whose overrides ignore the operators keep it so for all. -/
theorem IgnoreOperators.replay {overrides : Overrides} (h : overrides.IgnoreOperators)
    {calls : List Registration} (hcalls : ∀ call ∈ calls, call.override.IgnoresOperators) :
    (overrides.replay calls).IgnoreOperators :=
  Each.replay h hcalls

end Overrides

namespace Compiler

theorem clauseCondition_of_ignoreOperators {compiler : Compiler}
    (h : compiler.overrides.IgnoreOperators) (operators : OperatorTable) (c : ResolvedClause) :
    ({ compiler with operators } : Compiler).clauseCondition c = compiler.clauseCondition c := by
  rw [clauseCondition, clauseCondition]
  cases hoverride : compiler.overrides.lookup c.source.displayName c.operator.type with
  | none => rfl
  | some override => exact h _ _ _ hoverride compiler.toEnvironment operators c

theorem resolve_push {compiler : Compiler} {table table' : OperatorTable} {op : Operator}
    (h : table.push op = .ok table') {f : Filter}
    (hf : ∀ c, f.toNode.HasClause c → ∀ source, compiler.catalog.resolve c.source = .ok source →
      ¬ op.MeantBy c.operator source.types) :
    ({ compiler with operators := table' } : Compiler).resolve f =
      ({ compiler with operators := table } : Compiler).resolve f :=
  Filter.resolve_congr fun c hc => Clause.resolve_push h (hf c hc)

/-- In a table with one more operator a name finds this operator if it means it, and otherwise what
it found before, be it an operator or an error. A filter gets the same answers under the two tables,
errors included, if none of its clauses means the operator among the value types of the data source
that the clause names. For its condition and its query the overrides must not look at the operators,
which those given by their steps never do. -/
theorem push_conservative {table table' : OperatorTable} {op : Operator}
    (h : table.push op = .ok table') :
    (∀ name types,
      (op.MeantBy name types → table'.resolve name types = .ok op) ∧
      (¬ op.MeantBy name types → table'.resolve name types = table.resolve name types)) ∧
    ∀ (compiler : Compiler) (f : Filter),
      (∀ c, f.toNode.HasClause c → ∀ source, compiler.catalog.resolve c.source = .ok source →
        ¬ op.MeantBy c.operator source.types) →
      let before : Compiler := { compiler with operators := table }
      let after : Compiler := { compiler with operators := table' }
      after.validate f = before.validate f ∧ after.summaries f = before.summaries f ∧
        (compiler.overrides.IgnoreOperators →
          after.condition f = before.condition f ∧ after.query f = before.query f) := by
  refine ⟨OperatorTable.resolve_push h, fun compiler f hf => ?_⟩
  have hresolve := resolve_push h hf
  refine ⟨by rw [validate, validate, hresolve], by rw [summaries, summaries, hresolve],
    fun hoverrides => ?_⟩
  have hclause := clauseCondition_of_ignoreOperators hoverrides
  have hcondition : ({ compiler with operators := table' } : Compiler).condition f =
      ({ compiler with operators := table } : Compiler).condition f :=
    condition_congr hresolve fun r _ c _ => (hclause table' c).trans (hclause table c).symm
  exact ⟨hcondition, query_congr rfl hcondition⟩

/-- A further operator `IS` captures the name `is` where its value type is at hand, and leaves a
filter alone of which one clause uses the name and another has a data source of the type. -/
theorem push_conservative_beside_same_name :
    let op : Operator := { name := "IS", type := .singleChoice }
    let table' : OperatorTable := ⟨OperatorTable.standard.operators ++ [op]⟩
    let overrides := Overrides.empty.replay
      [⟨"Flavor", [.string], Recipe.override [.default, .build (.push " IS TRUE")]⟩]
    let catalog : Catalog := ⟨sample.catalog.sources ++
      [{ displayName := "Topping", column := "topping", types := [.singleChoice, .string] }]⟩
    let before : Compiler := { sample with catalog, overrides }
    let after : Compiler := { before with operators := table' }
    let f : Filter := ⟨some "or", [.clause ⟨"Flavor", "is", .string "Mint"⟩,
      .group none [.clause ⟨"Topping", "contains", .string "nut"⟩]]⟩
    OperatorTable.standard.push op = .ok table' ∧
    OperatorTable.standard.resolve " is " [.singleChoice, .string] =
      .ok { name := "is", type := .string } ∧
    table'.resolve " is " [.singleChoice, .string] = .ok op ∧
    before.overrides.IgnoreOperators ∧
    (∃ part, before.condition f = .ok (some part) ∧ after.condition f = .ok (some part)) ∧
    after.summaries f = before.summaries f ∧ after.query f = before.query f := by
  intro op table' overrides catalog before after f
  have hpush : OperatorTable.standard.push op = .ok table' := rfl
  obtain ⟨hnames, hfilters⟩ := push_conservative hpush
  have hmeant : op.MeantBy " is " [.singleChoice, .string] :=
    ⟨by decide, List.mem_cons_self⟩
  have hf : ∀ c, f.toNode.HasClause c → ∀ source, catalog.resolve c.source = .ok source →
      ¬ op.MeantBy c.operator source.types := by
    intro c hc source hsource
    have hc' : c = ⟨"Flavor", "is", .string "Mint"⟩ ∨
        c = ⟨"Topping", "contains", .string "nut"⟩ := by
      simpa [f, Filter.toNode] using hc
    rcases hc' with rfl | rfl
    · obtain rfl : _ = source := Except.ok.inj hsource
      rintro ⟨-, htype⟩
      simp at htype
    · obtain rfl : _ = source := Except.ok.inj hsource
      rintro ⟨hname, -⟩
      exact absurd hname (by decide)
  have hignore : overrides.IgnoreOperators :=
    Overrides.ignoreOperators_empty.replay (by simpa using Recipe.ignoresOperators _)
  obtain ⟨-, hsummaries, hsame⟩ := hfilters before f hf
  obtain ⟨hcondition, hquery⟩ := hsame hignore
  obtain ⟨part, hpart⟩ : ∃ part, before.condition f = .ok (some part) := ⟨_, rfl⟩
  exact ⟨hpush, rfl, (hnames _ _).1 hmeant, hignore, ⟨part, hpart, hcondition.trans hpart⟩,
    hsummaries, hquery⟩

/-- An override that asks for the operator `resembles` gives another condition once that is there,
for a clause that does not mean it. -/
theorem condition_changed_by_push_under_override :
    let op : Operator := { name := "resembles", type := .string }
    let table' : OperatorTable := ⟨OperatorTable.standard.operators ++ [op]⟩
    let override : Override := fun env c =>
      match env.operators.resolve "resembles" c.source.types with
      | .ok _ => .ok (.sql "(flavor % 'Mint')")
      | .error _ => env.defaultCondition c
    let overrides := Overrides.empty.replay [⟨"Flavor", [.string], override⟩]
    let before : Compiler := { sample with overrides }
    let after : Compiler := { before with operators := table' }
    let f : Filter := ⟨none, [.clause ⟨"Flavor", "is", .string "Mint"⟩]⟩
    OperatorTable.standard.push op = .ok table' ∧
    (∀ c, f.toNode.HasClause c → ∀ source, before.catalog.resolve c.source = .ok source →
      ¬ op.MeantBy c.operator source.types) ∧
    after.condition f ≠ before.condition f ∧ after.query f ≠ before.query f := by
  intro op table' override overrides before after f
  have hcondition : ((after.condition f).toOption.bind id).map Fragment.text ≠
      ((before.condition f).toOption.bind id).map Fragment.text := by
    decide +kernel +zetaReduce
  have hquery : (after.query f).toOption.map Fragment.text ≠
      (before.query f).toOption.map Fragment.text := by
    decide +kernel +zetaReduce
  have hpush : OperatorTable.standard.push op = .ok table' :=
    OperatorTable.push_eq_ok_iff.2 ⟨by decide +kernel +zetaReduce, rfl⟩
  refine ⟨hpush, fun c hc source _ => ?_, fun h => hcondition (by rw [h]),
    fun h => hquery (by rw [h])⟩
  obtain rfl : c = ⟨"Flavor", "is", .string "Mint"⟩ := by simpa [f, Filter.toNode] using hc
  rintro ⟨hname, -⟩
  exact absurd hname (by decide)

end Compiler

end FilterSql
