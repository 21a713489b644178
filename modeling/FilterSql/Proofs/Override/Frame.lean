import FilterSql.Proofs.Override.Registry
import FilterSql.Proofs.Resolution.Agreement

/-!
# What an override changes

An override that is registered under a free key decides the conditions of the clauses with this key,
whose operator belongs to its value type whatever type it reads its values under. Nothing else
changes: a filter without such a clause gets the same answers and the same errors as before.

## Main results

* `FilterSql.Compiler.clauseCondition_of_register`: the condition of a clause after a registration.
* `FilterSql.Compiler.override_confined_to_key`: what a registration changes and what it does not.
-/

namespace FilterSql

namespace Compiler

variable {compiler : Compiler} {overrides : Overrides} {source : String} {type : ValueType}
  {override : Override}

/-- After a registration its override decides the condition of the clauses with its key. -/
theorem clauseCondition_of_register
    (h : compiler.overrides.register source [type] override = .ok overrides) (c : ResolvedClause) :
    ({ compiler with overrides } : Compiler).clauseCondition c =
      if c.source.displayName = source ∧ c.operator.type = type then
        override compiler.toEnvironment c
      else compiler.clauseCondition c := by
  have hlookup : overrides.lookup c.source.displayName c.operator.type =
      if c.source.displayName = source ∧ c.operator.type = type then some override
      else compiler.overrides.lookup c.source.displayName c.operator.type := by
    simpa only [List.mem_singleton] using
      Overrides.lookup_of_register h c.source.displayName c.operator.type
  split
  case isTrue hkey =>
    rw [if_pos hkey] at hlookup
    rw [clauseCondition, hlookup]
  case isFalse hkey =>
    rw [if_neg hkey] at hlookup
    rw [clauseCondition, hlookup, clauseCondition]

/-- Under a key that is free an override can be registered. A filter none of whose clauses has this
key gets the same answers as before, errors included. The condition of a clause with this key is
what the override gives, be it a fragment or an error, and that of every other clause is what it
was; the default condition stays the one that is built for the column, the operator and the
value. -/
theorem override_confined_to_key (compiler : Compiler) (source : String) (type : ValueType)
    (override : Override) (hfree : compiler.overrides.lookup source type = none) :
    ∃ overrides, compiler.overrides.register source [type] override = .ok overrides ∧
      let changed : Compiler := { compiler with overrides }
      (∀ f, (∀ r, compiler.resolve f = .ok r → ∀ c ∈ r.clauses,
          ¬ (c.source.displayName = source ∧ c.operator.type = type)) →
        changed.validate f = compiler.validate f ∧ changed.condition f = compiler.condition f ∧
          changed.query f = compiler.query f ∧ changed.summaries f = compiler.summaries f) ∧
      ∀ c : ResolvedClause,
        changed.clauseCondition c =
          (if c.source.displayName = source ∧ c.operator.type = type then
            override compiler.toEnvironment c
          else compiler.clauseCondition c) ∧
        changed.defaultCondition c =
          (Condition.build c.source.column c.operator c.value compiler.now).mapError
            fun cause => ⟨cause, none⟩ := by
  obtain ⟨overrides, hregister⟩ :
      ∃ overrides, compiler.overrides.register source [type] override = .ok overrides :=
    ⟨_, Overrides.register_eq_ok_iff.2 ⟨⟨by simpa using hfree, List.nodup_singleton type⟩, rfl⟩⟩
  refine ⟨overrides, hregister, fun f hf => ?_,
    fun c => ⟨clauseCondition_of_register hregister c, ?_⟩⟩
  · have hcondition : ({ compiler with overrides } : Compiler).condition f =
        compiler.condition f := by
      refine condition_congr rfl fun r hr c hc => ?_
      rw [clauseCondition_of_register hregister, if_neg (hf r hr c hc)]
    exact ⟨rfl, hcondition, query_congr rfl hcondition, rfl⟩
  · rw [Environment.defaultCondition]
    cases Condition.build c.source.column c.operator c.value compiler.now <;> rfl

/-- An override for a boolean column leaves the clause alone which asks whether the column is set,
although the value of that is read as a boolean, and applies to a clause with a boolean operator. -/
theorem override_confined_to_key_beside_read_type :
    let override : Override := Recipe.override [.column, .build (.push " = 1")]
    let f : Filter := ⟨none, [.clause ⟨"Flavor", "is", .string "Mint"⟩,
      .group (some "or") [.clause ⟨"Scoops", "is set", .bool true⟩]]⟩
    let scoops : DataSource := { displayName := "Scoops", column := "num_scoops", types := [] }
    let isTrue : ResolvedClause :=
      ⟨⟨"Scoops", "is", .bool true⟩, scoops, { name := "is", type := .bool }, .bool true, .root⟩
    sample.overrides.lookup "Scoops" .bool = none ∧
    ∃ overrides, sample.overrides.register "Scoops" [.bool] override = .ok overrides ∧
      let changed : Compiler := { sample with overrides }
      (∃ r c, sample.resolve f = .ok r ∧ c ∈ r.clauses ∧ c.source.displayName = "Scoops" ∧
        c.operator.type = .nullable ∧ c.operator.readType = .bool ∧
        changed.condition f = sample.condition f ∧ changed.query f = sample.query f) ∧
      changed.clauseCondition isTrue = .ok (.sql "num_scoops = 1") ∧
      changed.defaultCondition isTrue = .ok (.sql "(num_scoops)") := by
  intro override f scoops isTrue
  obtain ⟨overrides, hregister, hconfined, hcondition⟩ :=
    override_confined_to_key sample "Scoops" .bool override rfl
  let mint : ResolvedClause := ⟨⟨"Flavor", "is", .string "Mint"⟩,
    { displayName := "Flavor", column := "flavor", types := [.string] },
    { name := "is", type := .string }, .text "Mint", ⟨[0]⟩⟩
  let isSet : ResolvedClause := ⟨⟨"Scoops", "is set", .bool true⟩,
    { displayName := "Scoops", column := "num_scoops", types := [.numeric, .nullable] },
    { name := "is set", type := .nullable, negative := true, coalesced := some .bool },
    .bool true, ⟨[1, 0]⟩⟩
  let r : ResolvedFilter := ⟨.all, [.clause mint, .group .any [.clause isSet] ⟨[1]⟩], .root⟩
  have hr : sample.resolve f = .ok r := by
    dsimp only [r, mint, isSet, f]
    rfl
  have hclauses : r.clauses = [mint, isSet] := rfl
  have hother : ∀ r', sample.resolve f = .ok r' → ∀ c ∈ r'.clauses,
      ¬ (c.source.displayName = "Scoops" ∧ c.operator.type = .bool) := by
    intro r' hr'
    obtain rfl : r = r' := Except.ok.inj (hr.symm.trans hr')
    simp [hclauses, mint, isSet]
  obtain ⟨-, hsame, hquery, -⟩ := hconfined f hother
  exact ⟨rfl, overrides, hregister,
    ⟨r, isSet, hr, by simp [hclauses], rfl, rfl, rfl, hsame, hquery⟩,
    (hcondition isTrue).1, (hcondition isTrue).2⟩

end Compiler

end FilterSql
