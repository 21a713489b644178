import FilterSql.Proofs.Condition.Builders
import FilterSql.Proofs.Resolution.FirstFailure
import FilterSql.Proofs.Resolution.Lookup
import FilterSql.Proofs.Value.Fits

/-!
# Filters that resolve have conditions

The value of a clause is read under the type that its operator reads, and its condition is built for
the type that the operator belongs to. As long as an operator reads values of its own type, the
builder never refuses a value: what can still go wrong is that the operator has no condition at all,
or that a relative date has no range at the moment. The standard operators all have conditions, so
with them a filter that resolves has one as well, unless it is for such a relative date.

## Main definitions

* `FilterSql.Operator.isSupported`: whether an operator has conditions.
* `FilterSql.Operator.ReadsOwnType`: an operator reads values of the type it belongs to.
* `FilterSql.OperatorTable.Reached`: the tables that come from the standard or the empty one.
* `FilterSql.Compiler.DatesHaveRanges`: the filters whose relative dates have ranges.

## Main results

* `FilterSql.Condition.build_of_fits`: the condition of a value of the type of its operator.
* `FilterSql.OperatorTable.Reached.readsOwnType`: the operators of such a table.
* `FilterSql.Compiler.condition_of_validate`: the conditions of filters that resolve.
-/

namespace FilterSql

/-! ### Operators with conditions -/

namespace Operator

/-- Whether an operator has conditions. -/
def isSupported (op : Operator) : Bool :=
  match op.type with
  | .nullable | .bool | .collection | .relativeDate => true
  | .numeric | .absoluteDate => op.sign.isOk
  | .string => op.keyword = "contains" || op.keyword = "starts with" || op.sign.isOk
  | .stringLength => Condition.startsWith op "more than" || Condition.startsWith op "fewer than"
  | .singleChoice => false

/-- The cause of an error for an operator without conditions. -/
def refusal (op : Operator) : Cause :=
  if op.type = .singleChoice then .unknownValueType .singleChoice
  else .unsupportedOperator op.name

/-- An operator has a sign, or else what needs one cannot be had. -/
theorem map_sign_cases {α : Type} (op : Operator) (g : String → α) :
    (op.sign.isOk = true ∧ ∃ a, op.sign.map g = .ok a) ∨
      (op.sign.isOk = false ∧ op.sign.map g = .error (.unsupportedOperator op.name)) := by
  have hsign : (∃ sign, op.sign = .ok sign) ∨ op.sign = .error (.unsupportedOperator op.name) := by
    rw [sign, signOf]
    repeat' split
    all_goals simp
  rcases hsign with ⟨sign, hsign⟩ | hsign
  · rw [hsign]
    exact .inl ⟨rfl, g sign, rfl⟩
  · rw [hsign]
    exact .inr ⟨rfl, rfl⟩

end Operator

namespace Condition

variable {column : String} {op : Operator} {v : Value} {now : Timestamp}

/-- A number says how many words there are. -/
theorem exists_wordCount_of_fits (h : v.Fits .numeric) : ∃ words, wordCount? v = some words := by
  cases h with
  | int n => exact ⟨n, rfl⟩
  | float x => exact ⟨_, rfl⟩

/-- A value of the type of its operator that has a range if it is a relative date has a condition,
unless there is none for any value. -/
theorem build_of_fits (column : String) (h : v.Fits op.type) (hrange : v.HasRange now) :
    (op.isSupported = true ∧ ∃ f, build column op v now = .ok f) ∨
      (op.isSupported = false ∧ build column op v now = .error op.refusal) := by
  generalize htype : op.type = type at h
  have hrefusal (hchoice : type ≠ .singleChoice) : op.refusal = .unsupportedOperator op.name :=
    if_neg (htype ▸ hchoice)
  rw [Operator.isSupported, build, htype]
  cases h with
  | nullable b => exact .inl ⟨rfl, _, rfl⟩
  | bool b => exact .inl ⟨rfl, _, rfl⟩
  | int n =>
    rw [hrefusal (by decide)]
    exact op.map_sign_cases (compare column · (.int n))
  | float x =>
    rw [hrefusal (by decide)]
    exact op.map_sign_cases (compare column · (.float x))
  | string s =>
    rw [hrefusal (by decide)]
    by_cases hcontains : op.keyword = "contains"
    · simp [ofString, hcontains]
    · by_cases hstarts : op.keyword = "starts with"
      · simp [ofString, hstarts]
      · simpa [ofString, hcontains, hstarts] using op.map_sign_cases _
  | wordCount h =>
    rw [hrefusal (by decide)]
    obtain ⟨words, hwords⟩ := exists_wordCount_of_fits h
    by_cases hmore : startsWith op "more than" = true
    · simp [ofWordCount, hwords, hmore]
    · by_cases hfewer : startsWith op "fewer than" = true
      · by_cases hpositive : words ≤ 0 <;> simp [ofWordCount, hwords, hmore, hfewer, hpositive]
      · simp [ofWordCount, hwords, hmore, hfewer]
  | collection ids => cases ids <;> cases hneg : op.negative <;> simp [ofCollection, hneg]
  | singleChoice members => exact .inr ⟨rfl, by simp [Operator.refusal, htype]⟩
  | relativeDate d =>
    obtain ⟨⟨first, last⟩, hbounds⟩ := hrange d rfl
    exact .inl ⟨rfl, _, ofRelativeDate_eq_ok_iff.2 ⟨d, first, last, rfl, hbounds, rfl⟩⟩
  | absoluteDate t =>
    rw [hrefusal (by decide)]
    exact op.map_sign_cases (compare column · (.timestamp t))

/-- Without a range a value of the type of its operator has no condition. -/
theorem build_of_not_hasRange (column : String) (h : v.Fits op.type) (hrange : ¬ v.HasRange now) :
    build column op v now = .error .dateOverflow := by
  obtain ⟨d, rfl, hnone⟩ : ∃ d, v = .relativeDate d ∧ ∀ range, d.range now ≠ some range := by
    simpa [Value.HasRange] using hrange
  generalize htype : op.type = type at h
  cases h with
  | relativeDate =>
    rw [build, htype]
    simp only [ofRelativeDate, Option.eq_none_iff_forall_ne_some.2 hnone, ofRange]
  | wordCount h => cases h

end Condition

/-! ### Tables of operators that read values of their own type -/

/-- An operator reads values of the type it belongs to. -/
def Operator.ReadsOwnType (op : Operator) : Prop :=
  ∀ v : Value, v.Fits op.readType → v.Fits op.type

/-- An operator whose values are read under no other type reads values of its own. -/
theorem Operator.readsOwnType_of_coalesced_eq_none {op : Operator} (h : op.coalesced = none) :
    op.ReadsOwnType := by
  intro v hv
  rwa [readType, h] at hv

namespace OperatorTable

variable {table table' : OperatorTable} {op : Operator}

/-- The tables that come from the standard or the empty one by further operators, none of which
reads its values under another type. -/
inductive Reached : OperatorTable → Prop
  | empty : Reached .empty
  | standard : Reached .standard
  | push {table table' : OperatorTable} {op : Operator} (h : Reached table)
      (hop : op.coalesced = none) (hpush : table.push op = .ok table') : Reached table'

/-- Further operators keep a table reached. -/
theorem Reached.pushAll (h : table.Reached) {ops : List Operator}
    (hops : ∀ op ∈ ops, op.coalesced = none) (hpush : table.pushAll ops = .ok table') :
    table'.Reached := by
  rw [OperatorTable.pushAll] at hpush
  induction ops generalizing table with
  | nil =>
    cases hpush
    exact h
  | cons op ops ih =>
    obtain ⟨next, hnext, hrest⟩ := bind_eq_ok_iff.1 hpush
    obtain ⟨hop, hops⟩ := List.forall_mem_cons.1 hops
    exact ih (h.push hop hnext) hops hrest

/-- The standard operators read values of their own type: a number of words is a number, and whether
a column is set is a boolean. -/
theorem readsOwnType_standard : ∀ op ∈ standard.operators, op.ReadsOwnType := by
  have htypes : ∀ op ∈ standard.operators, op.readType = op.type ∨
      (op.readType = .numeric ∧ op.type = .stringLength) ∨
        (op.readType = .bool ∧ op.type = .nullable) := by
    decide
  intro op hop v hv
  rcases htypes op hop with h | ⟨hread, htype⟩ | ⟨hread, htype⟩
  · rwa [h] at hv
  · rw [hread] at hv
    rw [htype]
    exact .wordCount hv
  · rw [hread] at hv
    rw [htype]
    cases hv with
    | bool b => exact .nullable b

/-- The operators of a reached table read values of their own type. -/
theorem Reached.readsOwnType (h : table.Reached) : ∀ op ∈ table.operators, op.ReadsOwnType := by
  induction h with
  | empty => simp [OperatorTable.empty]
  | standard => exact readsOwnType_standard
  | push h hop hpush ih =>
    obtain ⟨-, rfl⟩ := push_eq_ok_iff.1 hpush
    intro op' hop'
    rcases List.mem_append.1 hop' with hop' | hop'
    · exact ih op' hop'
    · obtain rfl := List.mem_singleton.1 hop'
      exact Operator.readsOwnType_of_coalesced_eq_none hop

/-- The standard operators all have conditions. -/
theorem isSupported_standard : ∀ op ∈ standard.operators, op.isSupported = true := by
  decide +kernel

end OperatorTable

/-! ### Filters -/

namespace Compiler

variable {compiler : Compiler} {f : Filter} {r : ResolvedFilter}

/-- The clauses of a filter have operators of the table, and values as these read them. -/
theorem fits_of_mem_clauses (hr : compiler.resolve f = .ok r) {c : ResolvedClause}
    (hc : c ∈ r.clauses) :
    c.operator ∈ compiler.operators.operators ∧ c.value.Fits c.operator.readType := by
  have hresolve := Node.resolve_of_mem_clauses f.toNode (resolve_toNode_eq_ok hr) c hc
  obtain ⟨-, hop, hvalue, -⟩ := Clause.resolve_eq_ok_iff.1 hresolve
  exact ⟨OperatorTable.mem_of_resolve hop, Value.fits_of_read hvalue⟩

/-- The relative dates of a filter have ranges at the moment of a compilation. -/
def DatesHaveRanges (compiler : Compiler) (f : Filter) : Prop :=
  ∀ r, compiler.resolve f = .ok r → ∀ c ∈ r.clauses, c.value.HasRange compiler.now

/-- Without overrides, where the operators read values of their own type, a filter that resolves
fails to have a condition only for an operator without conditions, or for a relative date without a
range. -/
theorem exists_cause_of_condition_eq_error (hempty : compiler.overrides = .empty)
    (hreads : ∀ op ∈ compiler.operators.operators, op.ReadsOwnType)
    (hr : compiler.resolve f = .ok r) {e : Error} (he : compiler.condition f = .error e) :
    ∃ c ∈ r.clauses, (c.operator.isSupported = false ∧ e.cause = c.operator.refusal) ∨
      (¬ c.value.HasRange compiler.now ∧ e.cause = .dateOverflow) := by
  rw [condition_eq_nodeCondition hr] at he
  obtain ⟨before, c, after, e', hclauses, -, hc, rfl⟩ :=
    firstError_of_nodeCondition_eq_error r.toNode he
  have hmem : c ∈ r.clauses := by
    rw [← ResolvedFilter.clauses_toNode, hclauses]
    simp
  obtain ⟨hop, hread⟩ := fits_of_mem_clauses hr hmem
  have hfits := hreads c.operator hop c.value hread
  rw [clauseCondition_eq_defaultCondition hempty, Environment.defaultCondition] at hc
  refine ⟨c, hmem, ?_⟩
  by_cases hrange : c.value.HasRange compiler.now
  · rcases Condition.build_of_fits c.source.column hfits hrange with
      ⟨-, g, hg⟩ | ⟨hsupported, hrefusal⟩
    · rw [hg] at hc
      cases hc
    · rw [hrefusal] at hc
      cases hc
      exact .inl ⟨hsupported, rfl⟩
  · rw [Condition.build_of_not_hasRange c.source.column hfits hrange] at hc
    cases hc
    exact .inr ⟨hrange, rfl⟩

/-- Without overrides, a filter whose relative dates have ranges has a condition under the standard
operators just if it resolves. Under a table reached from these or from none, the values of a filter
that resolves are of the types of their operators, and what can still be wrong with it is an
operator without a condition or a single choice, or else a relative date that has no range. -/
theorem condition_of_validate (compiler : Compiler) (hempty : compiler.overrides = .empty) :
    (compiler.operators = .standard → ∀ f, compiler.DatesHaveRanges f →
      (compiler.validate f = .ok () ↔ ∃ part, compiler.condition f = .ok part)) ∧
    (compiler.operators.Reached → ∀ f, compiler.validate f = .ok () →
      ∃ r, compiler.resolve f = .ok r ∧
        (∀ c ∈ r.clauses, c.value.Fits c.operator.type) ∧
        ∀ e, compiler.condition f = .error e →
          (∃ c ∈ r.clauses, e.cause = .unsupportedOperator c.operator.name) ∨
            e.cause = .unknownValueType .singleChoice ∨
            e.cause = .dateOverflow ∧ ¬ compiler.DatesHaveRanges f) := by
  constructor
  · intro hstandard f hdates
    rw [validate_eq_ok_iff]
    constructor
    · rintro ⟨r, hr⟩
      cases hpart : compiler.condition f with
      | ok part => exact ⟨part, rfl⟩
      | error e =>
        obtain ⟨c, hc, ⟨hsupported, -⟩ | ⟨hrange, -⟩⟩ := exists_cause_of_condition_eq_error hempty
          (hstandard ▸ OperatorTable.readsOwnType_standard) hr hpart
        · have hop := hstandard ▸ (fits_of_mem_clauses hr hc).1
          rw [OperatorTable.isSupported_standard _ hop] at hsupported
          cases hsupported
        · exact absurd (hdates r hr c hc) hrange
    · rintro ⟨part, hpart⟩
      obtain ⟨r, hr, -⟩ := bind_eq_ok_iff.1 hpart
      exact ⟨r, hr⟩
  · intro hreached f hvalid
    obtain ⟨r, hr⟩ := validate_eq_ok_iff.1 hvalid
    refine ⟨r, hr, fun c hc => ?_, fun e he => ?_⟩
    · obtain ⟨hop, hread⟩ := fits_of_mem_clauses hr hc
      exact hreached.readsOwnType c.operator hop c.value hread
    · obtain ⟨c, hc, ⟨-, hcause⟩ | ⟨hrange, hcause⟩⟩ :=
        exists_cause_of_condition_eq_error hempty hreached.readsOwnType hr he
      · rw [Operator.refusal] at hcause
        split at hcause
        · exact .inr (.inl hcause)
        · exact .inl ⟨c, hc, hcause⟩
      · exact .inr (.inr ⟨hcause, fun hdates => hrange (hdates r hr c hc)⟩)

/-- A filter with values of four types has a condition, and one with an operator of an own table has
none. -/
theorem condition_of_validate_beside_unsupported_operator :
    let opened : DataSource :=
      { displayName := "Opened", column := "opened_at", types := [.relativeDate] }
    let dated : Compiler := { sample with catalog := ⟨opened :: sample.catalog.sources⟩ }
    let f : Filter := ⟨none, [.clause ⟨"Flavor", "is", .string ""⟩, .group (some "or")
      [.clause ⟨"Scoops", ">=", .string " 2.5 "⟩, .clause ⟨"Scoops", "is set", .string "FALSE"⟩,
        .clause ⟨"Opened", "within", .string "Last 7 Days"⟩]]⟩
    let g : Filter := ⟨some "or", [.clause ⟨"Flavor", "is", .string "Mint"⟩,
      .clause ⟨"Flavor", "resembles", .string "Mint"⟩]⟩
    let operators : List Operator :=
      [{ name := "is", type := .string }, { name := "resembles", type := .string }]
    let compiler : Compiler := { sample with operators := ⟨operators⟩ }
    (dated.overrides = .empty ∧ dated.operators = .standard ∧ dated.DatesHaveRanges f ∧
      dated.validate f = .ok () ∧ ∃ part, dated.condition f = .ok part) ∧
    compiler.overrides = .empty ∧ compiler.operators.Reached ∧ compiler.validate g = .ok () ∧
      ∃ r e, compiler.resolve g = .ok r ∧ (∀ c ∈ r.clauses, c.value.Fits c.operator.type) ∧
        compiler.condition g = .error e ∧
        ((∃ c ∈ r.clauses, e.cause = .unsupportedOperator c.operator.name) ∨
          e.cause = .unknownValueType .singleChoice ∨
          e.cause = .dateOverflow ∧ ¬ compiler.DatesHaveRanges g) := by
  intro opened dated f g operators compiler
  have hyear : 1 ≤ dated.now.date.year ∧ dated.now.date.year ≤ 9999 := by decide +kernel
  have hdates : dated.DatesHaveRanges f := fun _ _ c _ => Value.hasRange_of_year hyear c.value
  have hf : dated.validate f = .ok () := rfl
  have hpart := ((condition_of_validate dated rfl).1 rfl f hdates).1 hf
  have hoperators : ∀ op ∈ operators, op.coalesced = none := by simp [operators]
  have hreached : compiler.operators.Reached :=
    OperatorTable.Reached.empty.pushAll hoperators rfl
  have hg : compiler.validate g = .ok () := rfl
  obtain ⟨r, hr, hfits, hcause⟩ := (condition_of_validate compiler rfl).2 hreached g hg
  exact ⟨⟨rfl, rfl, hdates, hf, hpart⟩, rfl, hreached, hg, r, _, hr, hfits, rfl, hcause _ rfl⟩

/-- On the last day of the calendar a filter that resolves under the standard operators can be
without a condition: the past has no range there, as the end of the day cannot be reached. -/
theorem validate_without_condition_on_last_day :
    let opened : DataSource :=
      { displayName := "Opened", column := "opened_at", types := [.relativeDate] }
    let compiler : Compiler :=
      { sample with catalog := ⟨[opened]⟩, now := .ofDate Date.latest }
    let f : Filter := ⟨none, [.clause ⟨"Opened", "within", .string "past"⟩]⟩
    compiler.overrides = .empty ∧ compiler.operators = .standard ∧ compiler.now.Datable ∧
      ¬ (compiler.validate f = .ok () ↔ ∃ part, compiler.condition f = .ok part) := by
  intro opened compiler f
  have hvalid : compiler.validate f = .ok () := rfl
  have hcondition : (compiler.condition f).isOk = false := by decide +kernel +zetaReduce
  refine ⟨rfl, rfl, Timestamp.datable_ofDate_latest, fun h => ?_⟩
  obtain ⟨part, hpart⟩ := h.1 hvalid
  rw [hpart] at hcondition
  cases hcondition

end Compiler

end FilterSql
