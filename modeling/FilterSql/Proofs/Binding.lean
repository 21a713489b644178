import FilterSql.Binding
import FilterSql.Proofs.Condition.Builders
import FilterSql.Proofs.Layout.Parameters

/-!
# Which parameters can be bound

Parameters can be bound if all the arrays among them are uniform: empty, or with elements of one and
the same kind. Of the arrays that are not uniform the first one is reported, by the element that
stands out in it: the first element if there are no arrays of its kind, or else the first one that
is not of the kind of the first.

The conditions of clauses bind nulls and single values, never a whole list as one parameter, so that
the parameters of a query without overrides can always be bound.

## Main definitions

* `FilterSql.Param.OfKind`: the parameters of a kind.
* `FilterSql.Param.Single`: a null, or a value of one of the kinds.
* `FilterSql.Binding.Uniform`, `FilterSql.Binding.Fault`: the arrays that can be bound, and what is
  reported of the others.

## Main results

* `FilterSql.Binding.uniform_or_fault`: an array is uniform or has a fault.
* `FilterSql.Binding.check_eq_ok_iff`, `FilterSql.Binding.check_eq_error_iff`: the two outcomes of
  the check.
* `FilterSql.Compiler.single_of_mem_params`: what a query without overrides binds.
* `FilterSql.Binding.binds_uniform_arrays`: all of this in one.
-/

namespace FilterSql

/-! ### Kinds of parameters -/

namespace Param

/-- The parameters of a kind. -/
inductive OfKind : Param → Kind → Prop
  | bool (b : Bool) : OfKind (.bool b) .bool
  | int (n : Int) : OfKind (.int n) .int
  | float (x : Float) : OfKind (.float x) .float
  | text (s : String) : OfKind (.text s) .text
  | timestamp (t : Timestamp) : OfKind (.timestamp t) .timestamp

/-- The parameters that stand for one value: a null, or a value of one of the kinds of which there
are arrays. -/
inductive Single : Param → Prop
  | null : Single .null
  | value {p : Param} {kind : Kind} (h : p.OfKind kind) : Single p

variable {p : Param} {kind : Kind}

theorem kind?_eq_some_iff : p.kind? = some kind ↔ p.OfKind kind := by
  constructor
  · intro h
    cases p <;> cases h <;> constructor
  · rintro ⟨⟩ <;> rfl

theorem kind?_eq_none_iff : p.kind? = none ↔ ∀ kind, ¬ p.OfKind kind := by
  simp [Option.eq_none_iff_forall_ne_some, kind?_eq_some_iff]

/-- No array stands for one value. -/
theorem Single.ne_array (h : p.Single) (items : List Param) : p ≠ .array items := by
  rintro rfl
  obtain _ | ⟨⟨⟩⟩ := h

end Param

namespace Binding

/-! ### Arrays -/

/-- An array that is empty or has all its elements of one kind. -/
def Uniform (items : List Param) : Prop :=
  items = [] ∨ ∃ kind, ∀ p ∈ items, p.OfKind kind

/-- What is reported of an array that is not uniform. -/
inductive Fault : List Param → BindProblem → Prop
  /-- There are no arrays of the kind of the first element. -/
  | elementKind {p : Param} {items : List Param} (h : ∀ kind, ¬ p.OfKind kind) :
      Fault (p :: items) (.elementKind p)
  /-- An element is the first one that is not of the kind of the first element. -/
  | mixedElement {p q : Param} {kind : Param.Kind} {before after : List Param}
      (hp : p.OfKind kind) (hbefore : ∀ r ∈ before, r.OfKind kind) (hq : ¬ q.OfKind kind) :
      Fault (p :: (before ++ q :: after)) (.mixedElement q)

variable {items : List Param} {problem : BindProblem}

theorem find?_other_eq_none_iff {kind : Param.Kind} {ps : List Param} :
    (ps.find? fun q => q.kind? ≠ some kind) = none ↔ ∀ q ∈ ps, q.OfKind kind := by
  simp [Param.kind?_eq_some_iff]

theorem find?_other_eq_some_iff {kind : Param.Kind} {ps : List Param} {q : Param} :
    (ps.find? fun q => q.kind? ≠ some kind) = some q ↔
      ¬ q.OfKind kind ∧
        ∃ before after, ps = before ++ q :: after ∧ ∀ r ∈ before, r.OfKind kind := by
  simp [List.find?_eq_some_iff_append, Param.kind?_eq_some_iff]

/-- An array is uniform or has a fault. -/
theorem uniform_or_fault (items : List Param) : Uniform items ∨ ∃ problem, Fault items problem := by
  cases items with
  | nil => exact .inl (.inl rfl)
  | cons p ps =>
    cases hkind : p.kind? with
    | none => exact .inr ⟨_, .elementKind (Param.kind?_eq_none_iff.1 hkind)⟩
    | some kind =>
      have hp : p.OfKind kind := Param.kind?_eq_some_iff.1 hkind
      cases hother : ps.find? fun q => q.kind? ≠ some kind with
      | none =>
        have hps := find?_other_eq_none_iff.1 hother
        exact .inl (.inr ⟨kind, List.forall_mem_cons.2 ⟨hp, hps⟩⟩)
      | some q =>
        obtain ⟨hq, before, after, rfl, hbefore⟩ := find?_other_eq_some_iff.1 hother
        exact .inr ⟨_, .mixedElement hp hbefore hq⟩

theorem checkArray_of_uniform (h : Uniform items) : checkArray items = .ok () := by
  obtain rfl | ⟨kind, hitems⟩ := h
  · rfl
  · cases items with
    | nil => rfl
    | cons p ps =>
      obtain ⟨hp, hps⟩ := List.forall_mem_cons.1 hitems
      simp only [checkArray, Param.kind?_eq_some_iff.2 hp, find?_other_eq_none_iff.2 hps]

theorem checkArray_of_fault (h : Fault items problem) : checkArray items = .error problem := by
  cases h with
  | elementKind hp => simp only [checkArray, Param.kind?_eq_none_iff.2 hp]
  | @mixedElement p q kind before after hp hbefore hq =>
    have hother := find?_other_eq_some_iff.2 ⟨hq, before, after, rfl, hbefore⟩
    simp only [checkArray, Param.kind?_eq_some_iff.2 hp, hother]

/-- The uniform arrays are those that can be bound. -/
theorem checkArray_eq_ok_iff : checkArray items = .ok () ↔ Uniform items := by
  refine ⟨fun h => ?_, checkArray_of_uniform⟩
  obtain huniform | ⟨problem, hfault⟩ := uniform_or_fault items
  · exact huniform
  · rw [checkArray_of_fault hfault] at h
    cases h

theorem checkArray_eq_error_iff : checkArray items = .error problem ↔ Fault items problem := by
  refine ⟨fun h => ?_, checkArray_of_fault⟩
  obtain huniform | ⟨problem', hfault⟩ := uniform_or_fault items
  · rw [checkArray_of_uniform huniform] at h
    cases h
  · rw [checkArray_of_fault hfault] at h
    cases h
    exact hfault

/-! ### Lists of parameters -/

variable {p : Param} {params : List Param} {e : Cause}

theorem checkParam_eq_ok_iff :
    checkParam p = .ok () ↔ ∀ items, p = .array items → Uniform items := by
  cases p with
  | array items =>
    rw [checkParam, checkArray_eq_ok_iff]
    exact ⟨fun h _ hitems => Param.array.inj hitems ▸ h, fun h => h items rfl⟩
  | _ => exact ⟨fun _ => nofun, fun _ => rfl⟩

theorem checkParam_eq_error_iff :
    checkParam p = .error problem ↔ ∃ items, p = .array items ∧ Fault items problem := by
  cases p with
  | array items =>
    rw [checkParam, checkArray_eq_error_iff]
    exact ⟨fun h => ⟨items, rfl, h⟩, fun ⟨_, hitems, h⟩ => Param.array.inj hitems ▸ h⟩
  | _ => exact ⟨nofun, nofun⟩

/-- Parameters can be bound if all the arrays among them are uniform. -/
theorem check_eq_ok_iff :
    check params = .ok () ↔ ∀ items, .array items ∈ params → Uniform items := by
  simp only [check, mapError_eq_ok_iff, forM_eq_ok_iff, checkParam_eq_ok_iff]
  exact ⟨fun h items hitems => h _ hitems items rfl,
    fun h p hp items hitems => h items (hitems ▸ hp)⟩

/-- Otherwise the fault of the first array that is not uniform is reported. -/
theorem check_eq_error_iff :
    check params = .error e ↔
      ∃ before items after problem, params = before ++ .array items :: after ∧
        (∀ earlier, .array earlier ∈ before → Uniform earlier) ∧ Fault items problem ∧
          e = .unsupportedParam problem := by
  rw [check, mapError_eq_error_iff]
  constructor
  · rintro ⟨problem, hproblem, rfl⟩
    obtain ⟨before, p, after, rfl, hbefore, hp⟩ := forM_eq_error_iff.1 hproblem
    obtain ⟨items, rfl, hfault⟩ := checkParam_eq_error_iff.1 hp
    exact ⟨before, items, after, problem, rfl, fun earlier hearlier =>
      checkParam_eq_ok_iff.1 (hbefore _ hearlier) earlier rfl, hfault, rfl⟩
  · rintro ⟨before, items, after, problem, rfl, hbefore, hfault, rfl⟩
    refine ⟨problem, forM_eq_error_iff.2 ⟨before, .array items, after, rfl, fun p hp => ?_,
      checkParam_eq_error_iff.2 ⟨items, rfl, hfault⟩⟩, rfl⟩
    exact checkParam_eq_ok_iff.2 fun earlier hearlier => hbefore earlier (hearlier ▸ hp)

/-- Nulls and single values can be bound. -/
theorem check_of_single (h : ∀ p ∈ params, p.Single) : check params = .ok () :=
  check_eq_ok_iff.2 fun items hitems => absurd rfl ((h _ hitems).ne_array items)

end Binding

/-! ### What conditions bind -/

namespace Condition

variable {column sign : String} {op : Operator} {v : Value} {f : Fragment} {p : Param}

@[simp] theorem params_compare : (compare column sign p).params = [p] := by
  simp [compare]

theorem single_paramOfId (id : ChoiceId) : (paramOfId id).Single := by
  cases id with
  | int n => exact .value (.int n)
  | text s => exact .value (.text s)

/-- The condition of a clause binds nulls and single values. -/
theorem single_of_build {now : Timestamp} (h : build column op v now = .ok f) :
    ∀ p ∈ f.params, p.Single := by
  rw [build] at h
  cases htype : op.type with
  | nullable =>
    rw [htype] at h
    obtain ⟨set, -, rfl⟩ := ofNullable_eq_ok_iff.1 h
    simp
  | bool =>
    rw [htype] at h
    obtain ⟨b, -, rfl⟩ := ofBool_eq_ok_iff.1 h
    simp
  | numeric =>
    rw [htype] at h
    obtain ⟨sign, -, ⟨n, -, rfl⟩ | ⟨x, -, rfl⟩⟩ := ofNumeric_eq_ok_iff.1 h
    · simpa using .value (.int n)
    · simpa using .value (.float x)
  | string =>
    rw [htype] at h
    obtain ⟨s, -, ⟨-, rfl⟩ | ⟨-, rfl⟩ | ⟨-, -, sign, -, rfl⟩⟩ := ofString_eq_ok_iff.1 h
    · simpa using .value (.text s)
    · simpa using .value (.text s)
    · split <;> simpa using .value (.text s)
  | stringLength =>
    rw [htype] at h
    obtain ⟨n, -, ⟨-, rfl⟩ | ⟨-, -, rfl⟩⟩ := ofWordCount_eq_ok_iff.1 h
    · simpa using .value (.text _)
    · split
      · simp
      · simpa using .value (.text _)
  | collection =>
    rw [htype] at h
    obtain ⟨-, rfl⟩ | ⟨id, ids, -, rfl⟩ := ofCollection_eq_ok_iff.1 h
    · split <;> simpa using .null
    · simpa using ⟨single_paramOfId id, fun id _ => single_paramOfId id⟩
  | singleChoice => simp [htype] at h
  | relativeDate =>
    rw [htype] at h
    obtain ⟨d, first, last, -, -, rfl⟩ := ofRelativeDate_eq_ok_iff.1 h
    simpa using ⟨.value (.timestamp _), .value (.timestamp _)⟩
  | absoluteDate =>
    rw [htype] at h
    obtain ⟨sign, t, -, -, rfl⟩ := ofAbsoluteDate_eq_ok_iff.1 h
    simpa using .value (.timestamp t)

end Condition

namespace Compiler

variable {compiler : Compiler} {f : Filter} {q : Fragment} {p : Param}

/-- What a query binds, the condition of one of the clauses of the filter binds. -/
theorem exists_clause_of_mem_params (h : compiler.query f = .ok q) (hp : p ∈ q.params) :
    ∃ r, compiler.resolve f = .ok r ∧ ∃ c ∈ r.clauses, ∃ g,
      compiler.clauseCondition c = .ok g ∧ p ∈ g.params := by
  obtain ⟨part, name, hpart, -, rfl⟩ := query_eq_ok_iff.1 h
  obtain ⟨r, hr, -⟩ := bind_eq_ok_iff.1 hpart
  cases part with
  | none => simp at hp
  | some condition =>
    rw [condition_eq_nodeCondition hr] at hpart
    have hcondition : p ∈ condition.params := by simpa using hp
    rw [← assemble_layout r.toNode hpart, params_assemble] at hcondition
    obtain ⟨c, hc, hmem⟩ := List.mem_flatMap.1 hcondition
    have hclause := mem_clauses_of_mem_layout hc
    obtain ⟨g, hg⟩ := clauseCondition_of_nodeCondition_eq_ok r.toNode hpart c hclause
    rw [clauseFragment_eq hg] at hmem
    exact ⟨r, hr, c, ResolvedFilter.clauses_toNode r ▸ hclause, g, hg, hmem⟩

/-- Without overrides a query binds nulls and single values. -/
theorem single_of_mem_params (hempty : compiler.overrides = .empty)
    (h : compiler.query f = .ok q) (hp : p ∈ q.params) : p.Single := by
  obtain ⟨r, -, c, -, g, hg, hmem⟩ := exists_clause_of_mem_params h hp
  rw [clauseCondition_eq_defaultCondition hempty, Environment.defaultCondition] at hg
  split at hg
  case h_1 g' hbuild =>
    cases hg
    exact Condition.single_of_build hbuild p hmem
  case h_2 => cases hg

end Compiler

namespace Binding

/-- Parameters can be bound if all the arrays among them are uniform. Otherwise the first array that
is not uniform gives the error, which names the element that stands out in it. Without overrides the
parameters of a query can always be bound. -/
theorem binds_uniform_arrays :
    (∀ params, check params = .ok () ↔ ∀ items, .array items ∈ params → Uniform items) ∧
    (∀ params e, check params = .error e ↔
      ∃ before items after problem, params = before ++ .array items :: after ∧
        (∀ earlier, .array earlier ∈ before → Uniform earlier) ∧ Fault items problem ∧
          e = .unsupportedParam problem) ∧
    (∀ p : Param,
      (Cause.unsupportedParam (.elementKind p)).message =
        "Cannot bind param: array of " ++ p.display ∧
      (Cause.unsupportedParam (.mixedElement p)).message =
        "Cannot bind param: mixed array element " ++ p.display) ∧
    ∀ (compiler : Compiler) (f : Filter) (q : Fragment), compiler.overrides = .empty →
      compiler.query f = .ok q → check q.params = .ok () := by
  refine ⟨fun params => check_eq_ok_iff, fun params e => check_eq_error_iff, fun p => ?messages,
    fun compiler f q hempty hq => ?queries⟩
  case messages =>
    have harray : "Cannot bind param: array of " = "Cannot bind param: " ++ "array of " := by
      decide
    have hmixed : "Cannot bind param: mixed array element " =
        "Cannot bind param: " ++ "mixed array element " := by
      decide
    constructor
    · rw [harray, String.append_assoc]
      rfl
    · rw [hmixed, String.append_assoc]
      rfl
  case queries => exact check_of_single fun p hp => Compiler.single_of_mem_params hempty hq hp

/-- Of two arrays that are not uniform the first one is reported, by its second element. A query
that binds a null for a choice of nothing, two chosen elements and the ends of a range can be
bound. -/
theorem binds_uniform_arrays_before_mixed_one :
    let mixed : List Param := [.int 1, .text "two", .null]
    let uniform : List Param := [.array [], .null, .array [.bool true, .bool false]]
    let params : List Param := uniform ++ .array mixed :: [.array [.null]]
    let toppings : DataSource :=
      { displayName := "Toppings", column := "topping", types := [.collection, .relativeDate] }
    let f : Filter := ⟨some "or", [.clause ⟨"Toppings", "any of", .array []⟩,
      .group none [.clause ⟨"Toppings", "not any of", .array [.string "7", .string "nuts"]⟩,
        .clause ⟨"Toppings", "within", .string "last month"⟩]]⟩
    let compiler : Compiler := { Compiler.sample with catalog := ⟨[toppings]⟩ }
    ((∀ items, .array items ∈ uniform → Uniform items) ∧ Fault mixed (.mixedElement (.text "two")) ∧
      check params = .error (.unsupportedParam (.mixedElement (.text "two")))) ∧
    compiler.overrides = .empty ∧
      ∃ q, compiler.query f = .ok q ∧ q.params.length = 5 ∧ check q.params = .ok () := by
  intro mixed uniform params toppings f compiler
  have huniform : ∀ items, .array items ∈ uniform → Uniform items := by
    have htruths : Uniform [.bool true, .bool false] :=
      .inr ⟨.bool, by simpa using ⟨.bool true, .bool false⟩⟩
    simpa [uniform] using ⟨.inl rfl, htruths⟩
  have hmixed : Fault mixed (.mixedElement (.text "two")) :=
    @Fault.mixedElement (.int 1) (.text "two") .int [] [.null] (.int 1) nofun nofun
  obtain ⟨-, herror, -, hquery⟩ := binds_uniform_arrays
  have hlength : (compiler.query f).toOption.map (·.params.length) = some 5 := by
    decide +kernel +zetaReduce
  obtain ⟨q, hq, hlength⟩ := exists_of_map_toOption_eq_some hlength
  exact ⟨⟨huniform, hmixed, (herror params _).2 ⟨_, mixed, _, _, rfl, huniform, hmixed, rfl⟩⟩,
    rfl, q, hq, hlength, hquery compiler f q rfl hq⟩

end Binding

end FilterSql
