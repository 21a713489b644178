import FilterSql.Proofs.Condition.Built
import FilterSql.Proofs.Resolution.Mapping
import FilterSql.Proofs.Sql.Token

/-!
# Wrapped filters

A filter that is the single child of a group means what it means alone, whichever connective the
group has. Resolution and compilation commute with moving a node to a place further down, so that
wrapping changes the places of errors and nothing else about them; and a group of one part puts a
pair of parentheses around it, or lifts no more than its part does.

## Main definitions

* `FilterSql.Path.under`, `FilterSql.Error.under`, `FilterSql.ResolvedNode.under`: places moved
  below a node.
* `FilterSql.outcomeUnder`: an outcome, with the place of an error moved.
* `FilterSql.Filter.wrapIn`: a filter wrapped in groups with some connectives.

## Main results

* `FilterSql.Node.resolve_under`: a node resolves alike at every place.
* `FilterSql.Compiler.nodeCondition_under`: without overrides it has the same condition there.
* `FilterSql.Compiler.condition_wrapIn`: the condition of a wrapped filter.
* `FilterSql.Compiler.wrapping_transparent`: all answers for a wrapped filter.
-/

namespace FilterSql

/-! ### Places further down -/

/-- The place that has a path below the node which some indexes lead to. -/
def Path.under (above : List Nat) (p : Path) : Path :=
  ⟨above ++ p.indexes⟩

@[simp] theorem Path.child_under (above : List Nat) (p : Path) (i : Nat) :
    (p.under above).child i = (p.child i).under above := by
  simp [under, child]

/-- An error, with its place below the node which some indexes lead to. -/
def Error.under (above : List Nat) (e : Error) : Error :=
  ⟨e.cause, e.path.map (Path.under above)⟩

theorem Error.at_under (above : List Nat) {e : Error} (h : e.path = none) (p : Path) :
    e.at (p.under above) = (e.at p).under above := by
  simp [Error.at, Error.under, h]

theorem Error.under_under (above inner : List Nat) (e : Error) :
    (e.under inner).under above = e.under (above ++ inner) := by
  cases e with
  | mk cause path => cases path <;> simp [Error.under, Path.under]

theorem Error.under_nil (e : Error) : e.under [] = e := by
  cases e with
  | mk cause path => cases path <;> simp [Error.under, Path.under]

/-- A resolved clause, with its place below the node which some indexes lead to. -/
def ResolvedClause.under (above : List Nat) (c : ResolvedClause) : ResolvedClause :=
  { c with path := c.path.under above }

/-- A resolved node, with all places below the node which some indexes lead to. -/
def ResolvedNode.under (above : List Nat) (n : ResolvedNode) : ResolvedNode :=
  n.map (ResolvedClause.under above) (Path.under above)

theorem ResolvedNode.under_group (above : List Nat) (connective : Connective)
    (ns : List ResolvedNode) (p : Path) :
    (group connective ns p).under above =
      group connective (ns.map (ResolvedNode.under above)) (p.under above) :=
  map_group connective ns p

theorem ResolvedNode.clauses_under (above : List Nat) (n : ResolvedNode) :
    (n.under above).clauses = n.clauses.map (ResolvedClause.under above) :=
  clauses_map n

/-- An outcome below the node which some indexes lead to: the result is changed, and an error has
its place there. -/
def outcomeUnder {α β : Type} (above : List Nat) (change : α → β) :
    Except Error α → Except Error β
  | .ok a => .ok (change a)
  | .error e => .error (e.under above)

section Outcome

variable {α β γ δ : Type} {above inner : List Nat}

@[simp] theorem outcomeUnder_ok (change : α → β) (a : α) :
    outcomeUnder above change (.ok a) = .ok (change a) := rfl

@[simp] theorem outcomeUnder_error (change : α → β) (e : Error) :
    outcomeUnder above change (.error e) = .error (e.under above) := rfl

theorem outcomeUnder_outcomeUnder (f : α → β) (g : β → γ) (x : Except Error α) :
    outcomeUnder above g (outcomeUnder inner f x) =
      outcomeUnder (above ++ inner) (g ∘ f) x := by
  cases x with
  | ok a => rfl
  | error e => simp [Error.under_under]

theorem outcomeUnder_nil (x : Except Error α) : outcomeUnder [] id x = x := by
  cases x with
  | ok a => rfl
  | error e => simp [Error.under_nil]

/-- Two steps below a node are the two steps each below it. -/
theorem outcomeUnder_bind {f : α → β} {g : γ → δ} {x : Except Error α}
    {step : α → Except Error γ} {stepBelow : β → Except Error δ}
    (h : ∀ a, x = .ok a → stepBelow (f a) = outcomeUnder above g (step a)) :
    outcomeUnder above f x >>= stepBelow = outcomeUnder above g (x >>= step) := by
  cases x with
  | ok a => exact h a rfl
  | error e => rfl

end Outcome

/-! ### Resolution below a node -/

section Resolution

variable {catalog : Catalog} {table : OperatorTable} (above : List Nat)

theorem Clause.resolve_under (c : Clause) (p : Path) :
    c.resolve catalog table (p.under above) =
      (c.resolve catalog table p).map (ResolvedClause.under above) := by
  simp only [Clause.resolve, bind, Except.bind]
  cases catalog.resolve c.source with
  | error cause => rfl
  | ok source =>
    dsimp only
    cases table.resolve c.operator source.types with
    | error cause => rfl
    | ok op =>
      dsimp only
      cases Value.read op.readType c.value <;> rfl

theorem Connective.resolve_under (name : Option String) (p : Path) :
    Connective.resolve (p.under above) name =
      outcomeUnder above id (Connective.resolve p name) := by
  rw [Connective.resolve, Connective.resolve]
  cases Connective.ofText? name with
  | none => exact congrArg Except.error (Error.at_under above rfl p)
  | some connective => rfl

theorem Node.resolveList_under {ns : List Node}
    (h : ∀ n ∈ ns, ∀ p, n.resolve catalog table (p.under above) =
      outcomeUnder above (ResolvedNode.under above) (n.resolve catalog table p))
    (p : Path) (i : Nat) :
    Node.resolveList catalog table (p.under above) i ns =
      outcomeUnder above (List.map (ResolvedNode.under above))
        (Node.resolveList catalog table p i ns) := by
  induction ns generalizing i with
  | nil => rfl
  | cons n ns ih =>
    obtain ⟨hn, hns⟩ := List.forall_mem_cons.1 h
    rw [Node.resolveList, Node.resolveList, Path.child_under, hn]
    refine outcomeUnder_bind fun r _ => ?_
    rw [ih hns]
    exact outcomeUnder_bind fun rs _ => rfl

/-- A node resolves alike at every place: the places in what it resolves to, or in the error, are
moved with it. -/
theorem Node.resolve_under (n : Node) (p : Path) :
    n.resolve catalog table (p.under above) =
      outcomeUnder above (ResolvedNode.under above) (n.resolve catalog table p) := by
  induction n generalizing p with
  | clause c =>
    rw [Node.resolve, Node.resolve, Clause.resolve_under]
    cases c.resolve catalog table p with
    | ok r => rfl
    | error cause => exact congrArg Except.error (Error.at_under above rfl p)
  | group name ns ih =>
    rw [Node.resolve, Node.resolve, Connective.resolve_under]
    refine outcomeUnder_bind fun connective _ => ?_
    rw [resolveList_under above ih]
    exact outcomeUnder_bind fun rs _ =>
      congrArg Except.ok (ResolvedNode.under_group above connective rs p).symm

end Resolution

/-! ### Conditions below a node -/

namespace Compiler

variable {compiler : Compiler} (above : List Nat)

/-- A default condition fails without a place. -/
theorem path_of_defaultCondition_eq_error {env : Environment} {c : ResolvedClause} {e : Error}
    (h : env.defaultCondition c = .error e) : e.path = none := by
  rw [Environment.defaultCondition] at h
  split at h
  case h_1 => cases h
  case h_2 =>
    cases h
    rfl

theorem nodeConditions_map_under {ns : List ResolvedNode}
    (h : ∀ n ∈ ns, compiler.nodeCondition (n.under above) =
      outcomeUnder above id (compiler.nodeCondition n)) :
    compiler.nodeConditions (ns.map (ResolvedNode.under above)) =
      outcomeUnder above id (compiler.nodeConditions ns) := by
  induction ns with
  | nil => rfl
  | cons n ns ih =>
    obtain ⟨hn, hns⟩ := List.forall_mem_cons.1 h
    rw [List.map_cons, nodeConditions, nodeConditions, hn]
    refine outcomeUnder_bind fun part _ => ?_
    rw [ih hns]
    exact outcomeUnder_bind fun parts _ => rfl

/-- Without overrides a node has the same condition at every place, or the same error at the place
moved with it. -/
theorem nodeCondition_under (hempty : compiler.overrides = .empty) (n : ResolvedNode) :
    compiler.nodeCondition (n.under above) =
      outcomeUnder above id (compiler.nodeCondition n) := by
  induction n with
  | clause c =>
    have hdefault : compiler.clauseCondition (c.under above) = compiler.defaultCondition c := by
      rw [clauseCondition_eq_defaultCondition hempty]
      rfl
    rw [ResolvedNode.under, ResolvedNode.map_clause, nodeCondition, nodeCondition, hdefault,
      clauseCondition_eq_defaultCondition hempty]
    cases hc : compiler.defaultCondition c with
    | ok f => rfl
    | error e =>
      have hpath : e.path = none := path_of_defaultCondition_eq_error hc
      exact congrArg Except.error (Error.at_under above hpath c.path)
  | group connective ns p ih =>
    rw [ResolvedNode.under_group, nodeCondition, nodeCondition, nodeConditions_map_under above ih]
    exact outcomeUnder_bind fun parts _ => rfl

end Compiler

/-! ### One group around a filter -/

theorem Connective.resolve_symbol (connective : Connective) (p : Path) :
    Connective.resolve p (some connective.symbol) = .ok connective := by
  cases connective <;> rfl

/-- A filter as the single child of a group resolves to its resolution below that group. -/
theorem Filter.resolve_group_singleton (catalog : Catalog) (table : OperatorTable)
    (connective : Connective) (f : Filter) :
    (Filter.group connective [f.toNode]).resolve catalog table =
      outcomeUnder [0]
        (fun r => { connective, children := [r.toNode.under [0]], path := .root })
        (f.resolve catalog table) := by
  have hroot : f.toNode.resolve catalog table (Path.root.child 0) =
      outcomeUnder [0] (ResolvedNode.under [0]) (f.toNode.resolve catalog table .root) :=
    Node.resolve_under [0] f.toNode .root
  rw [Filter.resolve, Filter.group, Connective.resolve_symbol]
  simp only [bind, Except.bind, Node.resolveList, hroot, Filter.resolve_toNode]
  cases f.resolve catalog table <;> rfl

/-- A group of one part puts it between parentheses, if it is a condition. -/
theorem Compiler.joinConditions_singleton (connective : Connective) (part : Option Fragment) :
    joinConditions connective [part] = part.map Fragment.parenthesize := by
  cases part with
  | none => rfl
  | some f => cases connective <;> rfl

namespace Compiler

variable {compiler : Compiler}

theorem resolve_group_singleton (compiler : Compiler) (connective : Connective) (f : Filter) :
    compiler.resolve (.group connective [f.toNode]) =
      outcomeUnder [0]
        (fun r => { connective, children := [r.toNode.under [0]], path := .root })
        (compiler.resolve f) :=
  Filter.resolve_group_singleton compiler.catalog compiler.operators connective f

theorem condition_group_singleton (hempty : compiler.overrides = .empty)
    (connective : Connective) (f : Filter) :
    compiler.condition (.group connective [f.toNode]) =
      outcomeUnder [0] (Option.map Fragment.parenthesize) (compiler.condition f) := by
  rw [condition, condition, resolve_group_singleton]
  refine outcomeUnder_bind fun r hr => ?_
  have hnode : compiler.resolvedCondition r = compiler.nodeCondition r.toNode := rfl
  rw [resolvedCondition, nodeConditions, nodeCondition_under [0] hempty, ← hnode]
  cases compiler.resolvedCondition r with
  | error e => rfl
  | ok part => exact congrArg Except.ok (joinConditions_singleton connective part)

theorem summaries_group_singleton (compiler : Compiler) (connective : Connective) (f : Filter) :
    compiler.summaries (.group connective [f.toNode]) =
      outcomeUnder [0] id (compiler.summaries f) := by
  rw [summaries, summaries, resolve_group_singleton]
  refine outcomeUnder_bind fun r hr => congrArg Except.ok ?_
  rw [ResolvedFilter.clauses, ResolvedNode.clausesOfList, ResolvedNode.clauses_under]
  simp [ResolvedNode.clausesOfList, ResolvedFilter.clauses_toNode, Function.comp_def]
  exact fun c _ => rfl

end Compiler

/-! ### Any number of groups around a filter -/

/-- A filter wrapped as the single child of groups with some connectives, of which the first is that
of the outermost group. -/
def Filter.wrapIn (f : Filter) : List Connective → Filter
  | [] => f
  | connective :: connectives => .group connective [(f.wrapIn connectives).toNode]

/-- Connectives that alternate, the last of which is `all`. -/
def Connective.alternating : Nat → List Connective
  | 0 => []
  | n + 1 => (if n % 2 = 0 then .all else .any) :: alternating n

theorem Filter.wrap_eq_wrapIn (f : Filter) (n : Nat) :
    f.wrap n = f.wrapIn (Connective.alternating n) := by
  induction n with
  | zero => rfl
  | succ n ih => rw [wrap, Connective.alternating, wrapIn, ih]

namespace Fragment

/-- A fragment between some pairs of parentheses. -/
def enclose (n : Nat) (f : Fragment) : Fragment :=
  f.wrap (String.ofList (List.replicate n '(')) (String.ofList (List.replicate n ')'))

theorem enclose_zero (f : Fragment) : f.enclose 0 = f :=
  wrap_empty f

theorem parenthesize_enclose (n : Nat) (f : Fragment) :
    (f.enclose n).parenthesize = f.enclose (n + 1) := by
  have hopening : String.ofList (List.replicate (n + 1) '(') =
      "(" ++ String.ofList (List.replicate n '(') := by
    rw [List.replicate_succ, String.ofList_cons]
    rfl
  have hclosing : String.ofList (List.replicate (n + 1) ')') =
      String.ofList (List.replicate n ')') ++ ")" := by
    rw [List.replicate_succ', String.ofList_append]
  rw [enclose, enclose, hopening, hclosing, parenthesize_eq_append, wrap_eq_append, wrap_eq_append,
    sql_append, sql_append]
  simp only [append_assoc]

theorem utf8ByteSize_openings (n : Nat) :
    (String.ofList (List.replicate n '(')).utf8ByteSize = n := by
  induction n with
  | zero => rfl
  | succ n ih =>
    rw [List.replicate_succ, Text.utf8ByteSize_ofList_cons, ih, Nat.add_comm]
    rfl

/-- A fragment that is put together from texts is the image of some tokens. -/
theorem Built.exists_tokens {P : String → Prop} {f : Fragment} (h : Built P f) :
    ∃ ts, Token.fragmentOf ts = f := by
  induction h with
  | empty => exact ⟨[], rfl⟩
  | @sql text h => exact ⟨[.literal text], Token.fragmentOf_literal text⟩
  | @placeholder p h => exact ⟨Token.bound p, Token.fragmentOf_bound p⟩
  | append hf hg ihf ihg =>
    obtain ⟨ts, rfl⟩ := ihf
    obtain ⟨us, rfl⟩ := ihg
    exact ⟨ts ++ us, Token.fragmentOf_append ts us⟩
  | parenthesize hf ih =>
    obtain ⟨ts, rfl⟩ := ih
    exact ⟨.literal "(" :: ts ++ [.literal ")"], Token.fragmentOf_wrap "(" ")" ts⟩

/-- SQL around the image of some tokens stays as it is around the numbered text. -/
theorem numbered_wrap_fragmentOf (before after : String) (ts : List Token) :
    ((Token.fragmentOf ts).wrap before after).numbered =
      before ++ (Token.fragmentOf ts).numbered ++ after := by
  rw [← Token.fragmentOf_wrap, (Token.shows_fragmentOf _).numbered,
    (Token.shows_fragmentOf ts).numbered, List.cons_append, Token.numberedFrom,
    Token.numberedFrom_append]
  simp [Token.numberedFrom, String.append_assoc]

end Fragment

namespace Compiler

variable {compiler : Compiler}

/-- A filter in some groups has its condition in as many pairs of parentheses, or its error as many
first children further down. -/
theorem condition_wrapIn (hempty : compiler.overrides = .empty) (f : Filter)
    (cs : List Connective) :
    compiler.condition (f.wrapIn cs) =
      outcomeUnder (List.replicate cs.length 0) (Option.map (Fragment.enclose cs.length))
        (compiler.condition f) := by
  induction cs with
  | nil =>
    have hid : Option.map (Fragment.enclose 0) = id := by
      funext part
      cases part with
      | none => rfl
      | some c => exact congrArg some c.enclose_zero
    rw [Filter.wrapIn, List.length_nil, List.replicate_zero, hid, outcomeUnder_nil]
  | cons connective cs ih =>
    have hstep : Option.map Fragment.parenthesize ∘ Option.map (Fragment.enclose cs.length) =
        Option.map (Fragment.enclose (cs.length + 1)) := by
      rw [Option.map_comp_map]
      exact congrArg Option.map (funext (Fragment.parenthesize_enclose cs.length))
    rw [Filter.wrapIn, condition_group_singleton hempty, ih, outcomeUnder_outcomeUnder, hstep,
      List.length_cons, List.replicate_succ]
    rfl

theorem summaries_wrapIn (compiler : Compiler) (f : Filter) (cs : List Connective) :
    compiler.summaries (f.wrapIn cs) =
      outcomeUnder (List.replicate cs.length 0) id (compiler.summaries f) := by
  induction cs with
  | nil => rw [Filter.wrapIn, List.length_nil, List.replicate_zero, outcomeUnder_nil]
  | cons connective cs ih =>
    rw [Filter.wrapIn, summaries_group_singleton, ih, outcomeUnder_outcomeUnder,
      List.length_cons, List.replicate_succ]
    rfl

/-- The error of a filter without summaries has a place. -/
theorem exists_path_of_summaries_eq_error {f : Filter} {e : Error}
    (h : compiler.summaries f = .error e) : ∃ p, e.path = some p := by
  rcases bind_eq_error_iff.1 h with hr | ⟨r, -, ⟨⟩⟩
  obtain ⟨is, cause, -, rfl⟩ := firstFailure_of_resolve_eq_error hr
  exact ⟨⟨is⟩, rfl⟩

/-- The error of a filter without a condition has a place. -/
theorem exists_path_of_condition_eq_error {f : Filter} {e : Error}
    (h : compiler.condition f = .error e) : ∃ p, e.path = some p := by
  rcases bind_eq_error_iff.1 h with hr | ⟨r, -, hr⟩
  · obtain ⟨is, cause, -, rfl⟩ := firstFailure_of_resolve_eq_error hr
    exact ⟨⟨is⟩, rfl⟩
  · obtain ⟨before, c, after, e', -, -, -, rfl⟩ :=
      firstError_of_nodeCondition_eq_error r.toNode hr
    exact ⟨_, Error.path_at e' c.path⟩

/-- Without overrides a filter that is wrapped in groups, each the single child of the next, keeps
its meaning, whatever the connectives are: alternating ones are an example. It puts no restriction
on rows if the filter alone puts none. Otherwise its condition is that of the filter with as many
pairs of parentheses around it, the same parameters, and its placeholders moved by the parentheses
before them. An error has the same cause, at the place that the wrapped filter has moved to, and the
summaries stay the same. -/
theorem wrapping_transparent (compiler : Compiler) (hempty : compiler.overrides = .empty)
    (f : Filter) (cs : List Connective) :
    let g := f.wrapIn cs
    let n := cs.length
    let openings := String.ofList (List.replicate n '(')
    let closings := String.ofList (List.replicate n ')')
    (compiler.condition g = .ok none ↔ compiler.condition f = .ok none) ∧
    (∀ c, compiler.condition f = .ok (some c) →
      ∃ d, compiler.condition g = .ok (some d) ∧ d.text = openings ++ c.text ++ closings ∧
        d.params = c.params ∧ d.placeholders = c.placeholders.map (n + ·) ∧
        d.numbered = openings ++ c.numbered ++ closings) ∧
    (∀ e, compiler.condition f = .error e →
      ∃ p, e.path = some p ∧
        compiler.condition g = .error ⟨e.cause, some ⟨List.replicate n 0 ++ p.indexes⟩⟩) ∧
    (∀ texts, compiler.summaries f = .ok texts → compiler.summaries g = .ok texts) ∧
    ∀ e, compiler.summaries f = .error e →
      ∃ p, e.path = some p ∧
        compiler.summaries g = .error ⟨e.cause, some ⟨List.replicate n 0 ++ p.indexes⟩⟩ := by
  intro g n openings closings
  have hcondition : compiler.condition g = outcomeUnder (List.replicate n 0)
      (Option.map (Fragment.enclose n)) (compiler.condition f) := condition_wrapIn hempty f cs
  have hsummaries : compiler.summaries g = outcomeUnder (List.replicate n 0) id
      (compiler.summaries f) := summaries_wrapIn compiler f cs
  refine ⟨?none, ?some, ?error, ?texts, ?noTexts⟩
  case none =>
    rw [hcondition]
    rcases compiler.condition f with e | part
    · simp
    · cases part <;> simp
  case some =>
    intro c hc
    have hbuilt : c.Built fun _ => True :=
      built_of_condition hempty (fun _ _ => trivial) (fun _ => trivial) (fun _ _ => trivial) hc
    obtain ⟨ts, rfl⟩ := hbuilt.exists_tokens
    refine ⟨(Token.fragmentOf ts).enclose n, by rw [hcondition, hc]; rfl, rfl, rfl, ?_,
      Fragment.numbered_wrap_fragmentOf openings closings ts⟩
    rw [Fragment.enclose, Fragment.placeholders_wrap, Fragment.utf8ByteSize_openings]
  case error =>
    intro e he
    obtain ⟨p, hp⟩ := exists_path_of_condition_eq_error he
    exact ⟨p, hp, by rw [hcondition, he, outcomeUnder_error, Error.under, hp]; rfl⟩
  case texts =>
    intro texts htexts
    rw [hsummaries, htexts, outcomeUnder_ok, id]
  case noTexts =>
    intro e he
    obtain ⟨p, hp⟩ := exists_path_of_summaries_eq_error he
    exact ⟨p, hp, by rw [hsummaries, he, outcomeUnder_error, Error.under, hp]; rfl⟩

/-- Three groups that alternate, around two numbers, around an empty group that lifts a restriction,
and around an operator that the data source does not have. -/
theorem wrapping_transparent_in_three_groups :
    let scoops (n : String) : Node := .clause ⟨"Scoops", ">=", .string n⟩
    let bounds : Filter := ⟨some "or", [scoops "2", .group none [scoops "5"]]⟩
    let lifted : Filter := ⟨some "|", [scoops "2", .group none []]⟩
    let unknown : Filter := ⟨none, [scoops "2", .clause ⟨"Flavor", "is set", .bool true⟩]⟩
    sample.overrides = .empty ∧
    (∃ d, sample.condition (bounds.wrap 3) = .ok (some d) ∧
      d.text = "(((" ++ "((num_scoops >= ?)\n OR \n((num_scoops >= ?)))" ++ ")))" ∧
      d.numbered = "(((" ++ "((num_scoops >= $1)\n OR \n((num_scoops >= $2)))" ++ ")))") ∧
    sample.condition (lifted.wrap 3) = .ok none ∧
    sample.condition (unknown.wrap 3) =
      .error ⟨.unknownOperator "is set", some ⟨[0, 0, 0, 1]⟩⟩ ∧
    sample.summaries (bounds.wrap 3) = .ok ["Scoops >= 2", "Scoops >= 5"] ∧
    sample.summaries (unknown.wrap 3) =
      .error ⟨.unknownOperator "is set", some ⟨[0, 0, 0, 1]⟩⟩ := by
  intro scoops bounds lifted unknown
  have hempty : sample.overrides = .empty := rfl
  have hbounds : sample.condition bounds = .ok (some
      ⟨"((num_scoops >= ?)\n OR \n((num_scoops >= ?)))", [.int 2, .int 5], [16, 40]⟩) := rfl
  obtain ⟨-, hsome, -, htexts, -⟩ :=
    wrapping_transparent sample hempty bounds (Connective.alternating 3)
  obtain ⟨hnone, -⟩ := wrapping_transparent sample hempty lifted (Connective.alternating 3)
  obtain ⟨-, -, herror, -, hnoTexts⟩ :=
    wrapping_transparent sample hempty unknown (Connective.alternating 3)
  simp only [Filter.wrap_eq_wrapIn]
  obtain ⟨d, hd, htext, -, -, hnumbered⟩ := hsome _ hbounds
  obtain ⟨p, hp, hcondition⟩ := herror _ rfl
  obtain ⟨q, hq, hsummaries⟩ := hnoTexts _ rfl
  obtain rfl := Option.some.inj hp
  obtain rfl := Option.some.inj hq
  exact ⟨hempty, ⟨d, hd, htext, hnumbered⟩, hnone.2 rfl, hcondition, htexts _ rfl, hsummaries⟩

end Compiler

end FilterSql
