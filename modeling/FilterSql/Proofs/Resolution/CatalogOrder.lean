import Mathlib.Data.List.Forall2
import FilterSql.Proofs.Override.Registry
import FilterSql.Proofs.Resolution.Mapping

/-!
# The order of a catalog

A name finds the one data source that has it, wherever in the catalog that stands, and an operator
is looked up among its value types, in whatever order they are listed and however often. So two
catalogs with the same data sources up to such differences give the same answers for every filter.
A further data source takes effect through the clauses that name it: a name that no clause uses
changes nothing, and a name that some clause uses, once it is there twice, is ambiguous.

A condition can depend on the catalog through an override as well, since that is built from the
whole environment: one that takes the first data source gives another condition for another order.
Overrides given by their steps do not look at the catalog.

## Main definitions

* `FilterSql.DataSource.Alike`, `FilterSql.Catalog.Rearranges`: data sources up to the order of
  their value types, and catalogs up to the order of data sources.
* `FilterSql.Catalog.Adds`: a catalog with a further data source.
* `FilterSql.Override.SameUnder`, `FilterSql.Overrides.SameUnder`: overrides that make the same of a
  clause under two catalogs.

## Main results

* `FilterSql.Catalog.Rearranges.findAlike`: what names find in a rearranged catalog.
* `FilterSql.Compiler.sameAnswers_of_findAlike`: catalogs in which the clauses of a filter find the
  same give the same answers for it.
* `FilterSql.Compiler.validate_of_first_ambiguous`: the error of a name that is there twice.
* `FilterSql.Compiler.catalog_order_irrelevant`: all of this for two catalogs.
-/

namespace FilterSql

open Text

/-! ### Data sources and catalogs -/

/-- Two data sources differ at most in the order in which their value types are listed, and in how
often each of them is. -/
structure DataSource.Alike (s t : DataSource) : Prop where
  displayName : s.displayName = t.displayName
  column : s.column = t.column
  choices : s.choices = t.choices
  types : ∀ type, type ∈ s.types ↔ type ∈ t.types

/-- A data source with each of its value types once, in a fixed order. -/
def DataSource.sorted (s : DataSource) : DataSource :=
  { s with types := ValueType.all.filter (· ∈ s.types) }

theorem DataSource.sorted_eq_iff {s t : DataSource} : s.sorted = t.sorted ↔ s.Alike t := by
  constructor
  · intro h
    obtain ⟨hname, hcolumn, htypes, hchoices⟩ := DataSource.mk.inj h
    refine ⟨hname, hcolumn, hchoices, fun type => ?_⟩
    have hmem : type ∈ ValueType.all.filter (· ∈ s.types) ↔
        type ∈ ValueType.all.filter (· ∈ t.types) := by rw [htypes]
    simpa [ValueType.mem_all] using hmem
  · rintro ⟨hname, hcolumn, hchoices, htypes⟩
    simp only [sorted, hname, hcolumn, hchoices, htypes]

namespace Catalog

variable {catalog catalog' : Catalog} {name : String}

/-- A catalog lists the data sources of another one in some order, each up to the order of its value
types. -/
def Rearranges (catalog catalog' : Catalog) : Prop :=
  ∃ sources, catalog.sources.Perm sources ∧ List.Forall₂ DataSource.Alike sources catalog'.sources

/-- A catalog lists a further data source, at any place. -/
def Adds (catalog : Catalog) (source : DataSource) (catalog' : Catalog) : Prop :=
  Rearranges ⟨source :: catalog.sources⟩ catalog'

/-- A name finds the same in two catalogs: data sources that are alike, or the same error. -/
inductive FindAlike (catalog catalog' : Catalog) (name : String) : Prop
  | source {s t : DataSource} (hs : catalog.resolve name = .ok s)
      (ht : catalog'.resolve name = .ok t) (h : s.Alike t) : FindAlike catalog catalog' name
  | error {cause : Cause} (h : catalog.resolve name = .error cause)
      (h' : catalog'.resolve name = .error cause) : FindAlike catalog catalog' name

/-- A name finds the same in a rearranged catalog. -/
theorem Rearranges.findAlike (h : catalog.Rearranges catalog') (name : String) :
    catalog.FindAlike catalog' name := by
  obtain ⟨sources, hperm, halike⟩ := h
  have hfound := hperm.filter (·.displayName == name)
  have halike' : List.Forall₂ DataSource.Alike (sources.filter (·.displayName == name))
      (catalog'.sources.filter (·.displayName == name)) :=
    List.rel_filter (fun s t hst => by simp [hst.displayName]) halike
  -- how many data sources have the name decides between the outcomes
  match hxs : catalog.sources.filter (·.displayName == name) with
  | [] =>
    rw [hxs] at hfound
    rw [← hfound.nil_eq, List.forall₂_nil_left_iff] at halike'
    exact .error (by rw [resolve, hxs]) (by rw [resolve, halike'])
  | [s] =>
    rw [hxs, List.singleton_perm] at hfound
    rw [← hfound, List.forall₂_cons_left_iff] at halike'
    obtain ⟨t, rest, hst, hrest, hzs⟩ := halike'
    obtain rfl : rest = [] := List.forall₂_nil_left_iff.1 hrest
    exact .source (by rw [resolve, hxs]) (by rw [resolve, hzs]) hst
  | s :: s' :: rest =>
    have hlength := hfound.length_eq.trans halike'.length_eq
    rw [hxs] at hlength
    match hzs : catalog'.sources.filter (·.displayName == name) with
    | [] => simp [hzs] at hlength
    | [_] => simp [hzs] at hlength
    | _ :: _ :: _ => exact .error (by rw [resolve, hxs]) (by rw [resolve, hzs])

/-- A name other than that of a further data source finds the same. -/
theorem Adds.findAlike_of_ne {source : DataSource} (h : catalog.Adds source catalog')
    (hname : name ≠ source.displayName) : catalog.FindAlike catalog' name := by
  have hsame : Catalog.resolve ⟨source :: catalog.sources⟩ name = catalog.resolve name := by
    have hskip : (source :: catalog.sources).filter (·.displayName == name) =
        catalog.sources.filter (·.displayName == name) :=
      List.filter_cons_of_neg (by simpa using hname.symm)
    rw [resolve, resolve, hskip]
  cases Rearranges.findAlike h name with
  | source hs ht hst => exact .source (hsame ▸ hs) ht hst
  | error he he' => exact .error (hsame ▸ he) he'

/-- A name that some data source has is ambiguous with a further one. -/
theorem Adds.resolve_eq_error {source s : DataSource} (h : catalog.Adds source catalog')
    (hs : s ∈ catalog.sources) (hname : s.displayName = source.displayName) :
    catalog'.resolve source.displayName = .error (.ambiguousDataSource source.displayName) := by
  have hmem : s ∈ catalog.sources.filter (·.displayName == source.displayName) :=
    List.mem_filter.2 ⟨hs, by simp [hname]⟩
  have htwice : Catalog.resolve ⟨source :: catalog.sources⟩ source.displayName =
      .error (.ambiguousDataSource source.displayName) := by
    rw [resolve, List.filter_cons_of_pos (by simp)]
    obtain ⟨t, rest, hrest⟩ := List.exists_cons_of_ne_nil (List.ne_nil_of_mem hmem)
    rw [hrest]
  cases Rearranges.findAlike h source.displayName with
  | source hs' => rw [htwice] at hs'; cases hs'
  | error he he' =>
    rw [htwice] at he
    rw [he', ← he]

end Catalog

/-! ### Clauses -/

theorem OperatorTable.resolve_congr_types (table : OperatorTable) (name : String)
    {types types' : List ValueType} (h : ∀ type, type ∈ types ↔ type ∈ types') :
    table.resolve name types = table.resolve name types' := by
  have hanswers : answers (trim name) types = answers (trim name) types' := by
    funext op
    simp [answers, h]
  rw [resolve, resolve, hanswers]

namespace ResolvedClause

/-- A resolved clause with the value types of its data source in a fixed order. -/
def sorted (c : ResolvedClause) : ResolvedClause :=
  { c with source := c.source.sorted }

theorem summary_sorted (c : ResolvedClause) : c.sorted.summary = c.summary := rfl

end ResolvedClause

/-- A clause that finds the same in two catalogs resolves to the same, up to the order of the value
types of its data source. -/
theorem Clause.map_resolve_of_findAlike {catalog catalog' : Catalog} {c : Clause}
    (h : catalog.FindAlike catalog' c.source) (table : OperatorTable) (p : Path) :
    (c.resolve catalog table p).map ResolvedClause.sorted =
      (c.resolve catalog' table p).map ResolvedClause.sorted := by
  rw [Clause.resolve, Clause.resolve]
  cases h with
  | error he he' => rw [he, he']
  | @source s t hs ht hst =>
    simp only [hs, ht, bind, Except.bind, table.resolve_congr_types c.operator hst.types]
    cases table.resolve c.operator t.types with
    | error cause => rfl
    | ok op =>
      dsimp only
      cases Value.read op.readType c.value with
      | error cause => rfl
      | ok v =>
        have hsorted : s.sorted = t.sorted := DataSource.sorted_eq_iff.2 hst
        simp [pure, Except.pure, Except.map, ResolvedClause.sorted, hsorted]

/-! ### Overrides -/

/-- An override makes the same of a clause under two catalogs, in whatever order the value types of
the data source of the clause are listed. -/
def Override.SameUnder (catalog catalog' : Catalog) (override : Override) : Prop :=
  ∀ (env : Environment) (c d : ResolvedClause), c.sorted = d.sorted →
    override { env with catalog } c = override { env with catalog := catalog' } d

theorem RecipeStep.run_sorted (step : RecipeStep) (env : Environment) (catalog : Catalog)
    (c : ResolvedClause) (f : Fragment) :
    step.run { env with catalog } c.sorted f = step.run env c f := by
  cases step <;> rfl

/-- An override given by its steps does not look at the catalog. -/
theorem Recipe.sameUnder (recipe : Recipe) (catalog catalog' : Catalog) :
    recipe.override.SameUnder catalog catalog' := by
  have hsorted (env : Environment) (other : Catalog) (c : ResolvedClause) :
      recipe.override { env with catalog := other } c.sorted = recipe.override env c := by
    have hstep : RecipeStep.run { env with catalog := other } c.sorted = RecipeStep.run env c :=
      funext fun f => funext fun step => step.run_sorted env other c f
    rw [Recipe.override, Recipe.override, hstep]
  intro env c d h
  rw [← hsorted { env with catalog } catalog' c, h]
  exact hsorted { env with catalog := catalog' } catalog' d

/-! ### Filters -/

namespace Compiler

variable {compiler : Compiler} {catalog' : Catalog} {f : Filter}

/-- A filter whose clauses find the same in another catalog fails with the same error, or resolves
to the same up to the order of value types. -/
theorem resolve_of_findAlike
    (h : ∀ c, f.toNode.HasClause c → compiler.catalog.FindAlike catalog' c.source) :
    let changed : Compiler := { compiler with catalog := catalog' }
    (∃ e, compiler.resolve f = .error e ∧ changed.resolve f = .error e) ∨
      ∃ r s, compiler.resolve f = .ok r ∧ changed.resolve f = .ok s ∧
        r.toNode.map ResolvedClause.sorted id = s.toNode.map ResolvedClause.sorted id := by
  intro changed
  have hnode := Node.map_resolve_congr (n := f.toNode)
    (fun c hc p => Clause.map_resolve_of_findAlike (h c hc) compiler.operators p) .root
  rw [Filter.resolve_toNode, Filter.resolve_toNode] at hnode
  have hcomp (x : Except Error ResolvedFilter) :
      (x.map ResolvedFilter.toNode).map (ResolvedNode.map ResolvedClause.sorted id) =
        x.map (ResolvedNode.map ResolvedClause.sorted id ∘ ResolvedFilter.toNode) := by
    cases x <;> rfl
  rw [hcomp, hcomp] at hnode
  exact outcomes_of_map_eq hnode

theorem summary_eq_of_sorted_eq {r s : ResolvedNode}
    (h : r.map ResolvedClause.sorted id = s.map ResolvedClause.sorted id) :
    r.clauses.map ResolvedClause.summary = s.clauses.map ResolvedClause.summary := by
  have hsorted : r.clauses.map ResolvedClause.sorted = s.clauses.map ResolvedClause.sorted := by
    have hclauses := congrArg ResolvedNode.clauses h
    rwa [ResolvedNode.clauses_map, ResolvedNode.clauses_map] at hclauses
  have hsummary (cs : List ResolvedClause) :
      (cs.map ResolvedClause.sorted).map ResolvedClause.summary =
        cs.map ResolvedClause.summary := by
    rw [List.map_map]
    exact List.map_congr_left fun c _ => c.summary_sorted
  rw [← hsummary, hsorted, hsummary]

/-- A clause has the same condition under two catalogs, in whatever order the value types of its
data source are listed, if the overrides make the same of it. -/
theorem nodeCondition_clause_of_sorted_eq
    (hoverrides : compiler.overrides.Each (Override.SameUnder compiler.catalog catalog'))
    {c d : ResolvedClause} (h : c.sorted = d.sorted) :
    compiler.nodeCondition (.clause c) =
      ({ compiler with catalog := catalog' } : Compiler).nodeCondition (.clause d) := by
  have hname : c.source.displayName = d.source.displayName :=
    congrArg (·.source.displayName) h
  have hoperator : c.operator = d.operator := congrArg (·.operator) h
  have hpath : c.path = d.path := congrArg (·.path) h
  have hclause : compiler.clauseCondition c =
      ({ compiler with catalog := catalog' } : Compiler).clauseCondition d := by
    rw [clauseCondition, clauseCondition, hname, hoperator]
    cases hoverride : compiler.overrides.lookup d.source.displayName d.operator.type with
    | none =>
      have hdefault : compiler.defaultCondition c.sorted = compiler.defaultCondition d.sorted := by
        rw [h]
      exact hdefault
    | some override => exact hoverrides _ _ _ hoverride compiler.toEnvironment c d h
  rw [nodeCondition, nodeCondition, hclause, hpath]

/-- A filter whose clauses find the same in another catalog gets the same answers with it. -/
theorem answers_of_findAlike
    (h : ∀ c, f.toNode.HasClause c → compiler.catalog.FindAlike catalog' c.source) :
    let changed : Compiler := { compiler with catalog := catalog' }
    changed.validate f = compiler.validate f ∧ changed.summaries f = compiler.summaries f ∧
      (compiler.overrides.Each (Override.SameUnder compiler.catalog catalog') →
        changed.condition f = compiler.condition f ∧ changed.query f = compiler.query f) := by
  intro changed
  obtain ⟨e, hr, hs⟩ | ⟨r, s, hr, hs, hsorted⟩ := resolve_of_findAlike h
  · have hcondition : changed.condition f = compiler.condition f := by
      rw [condition_eq_error hr, condition_eq_error hs]
    refine ⟨by rw [validate, validate, hr, hs], ?_,
      fun _ => ⟨hcondition, query_congr rfl hcondition⟩⟩
    rw [summaries, summaries, hr, hs]
  · refine ⟨by rw [validate, validate, hr, hs]; rfl, ?_, fun hoverrides => ?_⟩
    · have htexts := summary_eq_of_sorted_eq hsorted
      rw [ResolvedFilter.clauses_toNode, ResolvedFilter.clauses_toNode] at htexts
      rw [summaries, summaries, hr, hs]
      exact congrArg Except.ok htexts.symm
    · have hcondition : changed.condition f = compiler.condition f := by
        rw [condition_eq_nodeCondition hr, condition_eq_nodeCondition hs]
        exact (nodeCondition_congr_map
          (fun c d => nodeCondition_clause_of_sorted_eq hoverrides) hsorted).symm
      exact ⟨hcondition, query_congr rfl hcondition⟩

end Compiler

/-! ### Names that are there twice -/

/-- A node that fails on its own under another catalog fails so under the first one, if it is a
group or a clause that finds the same in both. -/
theorem Node.Fails.of_findAlike {catalog catalog' : Catalog} {table : OperatorTable} {n : Node}
    {cause : Cause} (hn : ∀ c, n = .clause c → catalog.FindAlike catalog' c.source)
    (h : n.Fails catalog' table cause) : n.Fails catalog table cause := by
  cases n with
  | group name ns =>
    cases h with
    | connective hname => exact .connective hname
  | clause c =>
    have hc := Clause.resolve_eq_error_iff (p := .root).2 h
    have hmap := Clause.map_resolve_of_findAlike (hn c rfl) table .root
    obtain ⟨cause', hx, hy⟩ | ⟨r, s, -, hy, -⟩ := outcomes_of_map_eq hmap
    · obtain rfl : cause' = cause := Except.error.inj (hy.symm.trans hc)
      exact Clause.resolve_eq_error_iff.1 hx
    · cases hy.symm.trans hc

namespace Compiler

variable {compiler : Compiler} {catalog' : Catalog} {f : Filter}

/-- If a name has become ambiguous, a filter in which a clause uses it fails. -/
theorem exists_validate_eq_error_of_ambiguous {name : String}
    (h : catalog'.resolve name = .error (.ambiguousDataSource name)) {c : Clause}
    (hc : f.toNode.HasClause c) (hname : c.source = name) :
    ∃ e, ({ compiler with catalog := catalog' } : Compiler).validate f = .error e := by
  obtain ⟨is, his⟩ := hc
  have hfails : (Node.clause c).Fails catalog' compiler.operators (.ambiguousDataSource name) :=
    .source (hname ▸ h)
  cases hr : ({ compiler with catalog := catalog' } : Compiler).resolve f with
  | error e => exact ⟨e, validate_eq_error_iff.2 hr⟩
  | ok r => exact absurd hfails (Node.not_fails_of_resolve_eq_ok (resolve_toNode_eq_ok hr) his)

/-- If a name has become ambiguous, the first clause that uses it fails for that, at its place,
unless a node before it fails already. -/
theorem validate_of_first_ambiguous {name : String}
    (h : catalog'.resolve name = .error (.ambiguousDataSource name))
    (hothers : ∀ other, other ≠ name → compiler.catalog.FindAlike catalog' other)
    {is : List Nat} {c : Clause} (hat : f.toNode.at? is = some (.clause c))
    (hname : c.source = name)
    (hbefore : ∀ js < is, ∀ m, f.toNode.at? js = some m →
      (∀ d, m = .clause d → d.source ≠ name) ∧
        ∀ cause, ¬ m.Fails compiler.catalog compiler.operators cause) :
    ({ compiler with catalog := catalog' } : Compiler).validate f =
      .error ⟨.ambiguousDataSource name, some ⟨is⟩⟩ := by
  have hfails : (Node.clause c).Fails catalog' compiler.operators (.ambiguousDataSource name) :=
    .source (hname ▸ h)
  obtain ⟨e, he⟩ : ∃ e, ({ compiler with catalog := catalog' } : Compiler).validate f = .error e :=
    exists_validate_eq_error_of_ambiguous h ⟨is, hat⟩ hname
  obtain ⟨js, cause, ⟨⟨m, hm, hfirst⟩, hleast⟩, rfl⟩ :=
    firstFailure_of_resolve_eq_error (validate_eq_error_iff.1 he)
  have hnotBefore : ¬ js < is := by
    intro hjs
    obtain ⟨hunused, hfine⟩ := hbefore js hjs m hm
    exact hfine cause (hfirst.of_findAlike fun d hd => hothers d.source (hunused d hd))
  have hnotAfter : ¬ is < js := fun his => hleast is his (.clause c) hat _ hfails
  obtain rfl : js = is :=
    List.le_antisymm (List.not_lt.1 hnotAfter) (List.not_lt.1 hnotBefore)
  obtain rfl : m = .clause c := Option.some.inj (hm.symm.trans hat)
  have hcause := (Clause.resolve_eq_error_iff (p := .root).2 hfirst).symm.trans
    (Clause.resolve_eq_error_iff.2 hfails)
  rw [he, Except.error.inj hcause]

/-- A filter gets the same answers under two catalogs, errors and their places included, if one
lists the data sources of the other in some order, each with its value types in any order and any
number of times. So does a filter none of whose clauses uses the display name of a data source that
is added, at any place of the catalog. If a clause uses this name and it is there already, the
filter fails: for the ambiguous name, at the first clause that uses it, unless a node before that
one fails. For the condition and the query the overrides must make the same of a clause under the
two catalogs, which those given by their steps always do. -/
theorem catalog_order_irrelevant (compiler : Compiler) (catalog' : Catalog) (f : Filter) :
    let changed : Compiler := { compiler with catalog := catalog' }
    let sameOverrides := compiler.overrides.Each (Override.SameUnder compiler.catalog catalog')
    (compiler.catalog.Rearranges catalog' →
      changed.validate f = compiler.validate f ∧ changed.summaries f = compiler.summaries f ∧
        (sameOverrides →
          changed.condition f = compiler.condition f ∧ changed.query f = compiler.query f)) ∧
    ∀ source, compiler.catalog.Adds source catalog' →
      ((∀ c, f.toNode.HasClause c → c.source ≠ source.displayName) →
        changed.validate f = compiler.validate f ∧ changed.summaries f = compiler.summaries f ∧
          (sameOverrides →
            changed.condition f = compiler.condition f ∧
              changed.query f = compiler.query f)) ∧
      ((∃ s ∈ compiler.catalog.sources, s.displayName = source.displayName) →
        (∀ c, f.toNode.HasClause c → c.source = source.displayName →
          ∃ e, changed.validate f = .error e) ∧
        ∀ is c, f.toNode.at? is = some (.clause c) → c.source = source.displayName →
          (∀ js < is, ∀ m, f.toNode.at? js = some m →
            (∀ d, m = .clause d → d.source ≠ source.displayName) ∧
              ∀ cause, ¬ m.Fails compiler.catalog compiler.operators cause) →
          changed.validate f =
            .error ⟨.ambiguousDataSource source.displayName, some ⟨is⟩⟩) := by
  intro changed sameOverrides
  refine ⟨fun h => answers_of_findAlike fun c _ => h.findAlike c.source,
    fun source hadds => ⟨fun hunused => ?_, ?_⟩⟩
  · exact answers_of_findAlike fun c hc => hadds.findAlike_of_ne (hunused c hc)
  · rintro ⟨s, hs, hname⟩
    have htwice := hadds.resolve_eq_error hs hname
    refine ⟨fun c hc => exists_validate_eq_error_of_ambiguous htwice hc, fun is c hat hc => ?_⟩
    exact validate_of_first_ambiguous htwice (fun other => hadds.findAlike_of_ne) hat hc

/-- Two data sources change places, one of them has a value type twice, and one more is there that
no clause uses: two numbers are compared as before. A second `Scoops` is ambiguous where it is first
used, before an operator that does not exist. -/
theorem catalog_order_irrelevant_until_second_scoops :
    let overrides := Overrides.empty.replay
      [⟨"Scoops", [.nullable], Recipe.override [.default, .build (.push " IS TRUE")]⟩]
    let compiler : Compiler := { sample with overrides }
    let flavor : DataSource := { displayName := "Flavor", column := "flavor", types := [.string] }
    let scoops : DataSource := { displayName := "Scoops", column := "num_scoops",
                                 types := [.nullable, .numeric, .nullable] }
    let topping : DataSource := { displayName := "Topping", column := "topping", types := [] }
    let scoops' : DataSource := { scoops with column := "scoops" }
    let rearranged : Catalog := ⟨[scoops, flavor]⟩
    let longer : Catalog := ⟨[flavor, topping, scoops]⟩
    let twice : Catalog := ⟨[scoops, flavor, scoops']⟩
    let f : Filter := ⟨some "or", [.clause ⟨"Scoops", ">=", .string "2"⟩,
      .group none [.clause ⟨"Scoops", "is set", .bool true⟩]]⟩
    let g : Filter := ⟨none, [.clause ⟨"Flavor", "is", .string "Mint"⟩,
      .group none [.clause ⟨"Scoops", ">=", .string "2"⟩,
        .clause ⟨"Flavor", "is set", .bool true⟩]]⟩
    (∃ part, compiler.condition f = .ok (some part) ∧
      ({ compiler with catalog := rearranged } : Compiler).condition f = .ok (some part) ∧
      ({ compiler with catalog := longer } : Compiler).condition f = .ok (some part)) ∧
    ({ compiler with catalog := rearranged } : Compiler).validate g =
      .error ⟨.unknownOperator "is set", some ⟨[1, 1]⟩⟩ ∧
    ({ compiler with catalog := twice } : Compiler).validate g =
      .error ⟨.ambiguousDataSource "Scoops", some ⟨[1, 0]⟩⟩ := by
  intro overrides compiler flavor scoops topping scoops' rearranged longer twice f g
  have hoverrides (catalog' : Catalog) :
      overrides.Each (Override.SameUnder compiler.catalog catalog') :=
    Overrides.each_empty.replay (by simpa using Recipe.sameUnder _ _ _)
  have halike (s : DataSource) : s.Alike s := ⟨rfl, rfl, rfl, fun _ => Iff.rfl⟩
  have hscoops : DataSource.Alike { scoops with types := [.numeric, .nullable] } scoops :=
    ⟨rfl, rfl, rfl, fun type => by simp [scoops]; tauto⟩
  have hrearranged : compiler.catalog.Rearranges rearranged :=
    ⟨_, .swap _ _ _, .cons hscoops (.cons (halike _) .nil)⟩
  have hlonger : compiler.catalog.Adds topping longer :=
    ⟨_, .swap _ _ _, .cons (halike _) (.cons (halike _) (.cons hscoops .nil))⟩
  have htwice : compiler.catalog.Adds scoops' twice :=
    ⟨_, (List.reverse_perm _).symm, .cons hscoops (.cons (halike _) (.cons (halike _) .nil))⟩
  have hunused : ∀ c, f.toNode.HasClause c → c.source ≠ topping.displayName := by
    simp [f, Filter.toNode, topping]
  obtain ⟨part, hpart⟩ : ∃ part, compiler.condition f = .ok (some part) := ⟨_, rfl⟩
  obtain ⟨-, -, hsame⟩ := (catalog_order_irrelevant compiler rearranged f).1 hrearranged
  obtain ⟨hvalidate, -⟩ := (catalog_order_irrelevant compiler rearranged g).1 hrearranged
  obtain ⟨-, -, hsame'⟩ :=
    ((catalog_order_irrelevant compiler longer f).2 topping hlonger).1 hunused
  have hambiguous := (((catalog_order_irrelevant compiler twice g).2 scoops' htwice).2
    ⟨_, List.mem_cons_of_mem _ List.mem_cons_self, rfl⟩).2 [1, 0] _ rfl rfl
  refine ⟨⟨part, hpart, (hsame (hoverrides _)).1.trans hpart,
    (hsame' (hoverrides _)).1.trans hpart⟩, hvalidate.trans rfl, hambiguous fun js hjs m hm => ?_⟩
  have hgroup (ns : List Node) :
      (∀ d, Node.group none ns = .clause d → d.source ≠ scoops'.displayName) ∧
        ∀ cause, ¬ (Node.group none ns).Fails compiler.catalog compiler.operators cause := by
    refine ⟨by rintro d ⟨⟩, ?_⟩
    rintro cause ⟨h⟩
    cases h
  -- before the clause come the filter itself, its first clause, and the group around the clause
  cases js with
  | nil =>
    obtain rfl := Option.some.inj hm
    exact hgroup _
  | cons i is =>
    rcases List.cons_lt_cons_iff.1 hjs with hi | ⟨rfl, his⟩
    · obtain rfl := Nat.lt_one_iff.1 hi
      cases is with
      | nil =>
        obtain rfl := Option.some.inj hm
        refine ⟨fun d h => ?_, fun cause h => ?_⟩
        · obtain rfl := Node.clause.inj h
          decide
        · exact absurd (Clause.resolve_eq_error_iff (p := .root).2 h) (by rintro ⟨⟩)
      | cons j js => cases hm
    · cases is with
      | nil =>
        obtain rfl := Option.some.inj hm
        exact hgroup _
      | cons j js =>
        rcases List.cons_lt_cons_iff.1 his with hj | ⟨-, hnil⟩
        · exact absurd hj (Nat.not_lt_zero j)
        · exact absurd hnil (List.not_lt_nil js)

/-- An override that takes the column of the first data source gives another condition once two data
sources change places. -/
theorem condition_changed_by_order_under_override :
    let override : Override := fun env _ =>
      .ok (.sql ((env.catalog.sources.map (·.column)).headD ""))
    let overrides := Overrides.empty.replay [⟨"Flavor", [.string], override⟩]
    let compiler : Compiler := { sample with overrides }
    let rearranged : Catalog := ⟨sample.catalog.sources.reverse⟩
    let changed : Compiler := { compiler with catalog := rearranged }
    let f : Filter := ⟨none, [.clause ⟨"Flavor", "is", .string "Mint"⟩]⟩
    compiler.catalog.Rearranges rearranged ∧
    changed.condition f ≠ compiler.condition f ∧ changed.query f ≠ compiler.query f := by
  intro override overrides compiler rearranged changed f
  have hcondition : ((changed.condition f).toOption.bind id).map Fragment.text ≠
      ((compiler.condition f).toOption.bind id).map Fragment.text := by
    decide +kernel +zetaReduce
  have hquery : (changed.query f).toOption.map Fragment.text ≠
      (compiler.query f).toOption.map Fragment.text := by
    decide +kernel +zetaReduce
  have halike (s : DataSource) : s.Alike s := ⟨rfl, rfl, rfl, fun _ => Iff.rfl⟩
  exact ⟨⟨_, (List.reverse_perm _).symm, List.forall₂_same.2 fun s _ => halike s⟩,
    fun h => hcondition (by rw [h]), fun h => hquery (by rw [h])⟩

end Compiler

end FilterSql
