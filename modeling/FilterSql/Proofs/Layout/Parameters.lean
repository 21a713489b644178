import FilterSql.Proofs.Layout.Basic
import FilterSql.Proofs.Resolution.FirstFailure
import FilterSql.Proofs.Sql.Token

/-!
# The order of parameters

The parameters of a condition are those of its clauses, one clause after the other in the order of
the filter. A clause counts if every group around it puts a restriction on rows; the parameters of
all others are dropped together with their text. The query has the parameters of its condition, and
the number written at a placeholder is the place of its parameter among them.

## Main definitions

* `FilterSql.ResolvedNode.clausesWithGroups`: the clauses of a node with the groups around them.
* `FilterSql.Compiler.boundClauses`: the clauses around which every group puts a restriction.
* `FilterSql.Node.NoEmptyGroup`: no group at or below a node is empty.

## Main results

* `FilterSql.Compiler.clauses_layout`: the clauses of a layout are the bound ones.
* `FilterSql.Compiler.restricts_of_noEmptyGroup`: without empty groups every group puts a
  restriction.
* `FilterSql.Compiler.exists_numbered_of_split`: the placeholders of a clause are numbered after
  those of the clauses before it.
* `FilterSql.Compiler.params_in_clause_order`: all of this for a filter and its query.
-/

namespace FilterSql

/-! ### Clauses and the groups around them -/

namespace ResolvedNode

mutual

/-- The clauses of a node in order, each with the groups around it from the outside in. -/
def clausesWithGroups : ResolvedNode → List (ResolvedClause × List ResolvedNode)
  | .clause c => [(c, [])]
  | .group connective children p =>
    (clausesWithGroupsOfList children).map fun (c, gs) => (c, .group connective children p :: gs)
termination_by structural n => n

/-- The clauses of a list of nodes in order, each with the groups around it. -/
def clausesWithGroupsOfList : List ResolvedNode → List (ResolvedClause × List ResolvedNode)
  | [] => []
  | n :: ns => n.clausesWithGroups ++ clausesWithGroupsOfList ns
termination_by structural ns => ns

end

mutual

theorem map_fst_clausesWithGroups : (n : ResolvedNode) →
    n.clausesWithGroups.map Prod.fst = n.clauses
  | .clause _ => rfl
  | .group connective children p => by
    rw [clausesWithGroups, List.map_map, clauses, ← map_fst_clausesWithGroupsOfList children]
    rfl

theorem map_fst_clausesWithGroupsOfList : (ns : List ResolvedNode) →
    (clausesWithGroupsOfList ns).map Prod.fst = clausesOfList ns
  | [] => rfl
  | n :: ns => by
    rw [clausesWithGroupsOfList, List.map_append, map_fst_clausesWithGroups n,
      map_fst_clausesWithGroupsOfList ns, clausesOfList]

end

end ResolvedNode

namespace Compiler

variable {compiler : Compiler}

/-- The clauses among some, given with the groups around them, for which each of these groups puts a
restriction on rows. -/
def boundOf (compiler : Compiler) (xs : List (ResolvedClause × List ResolvedNode)) :
    List ResolvedClause :=
  (xs.filter fun (_, gs) => gs.all compiler.restricts).map Prod.fst

/-- The clauses of a filter around which every group puts a restriction on rows. -/
def boundClauses (compiler : Compiler) (r : ResolvedFilter) : List ResolvedClause :=
  compiler.boundOf r.toNode.clausesWithGroups

@[simp] theorem boundOf_append (xs ys : List (ResolvedClause × List ResolvedNode)) :
    compiler.boundOf (xs ++ ys) = compiler.boundOf xs ++ compiler.boundOf ys := by
  simp [boundOf]

/-- A group around some clauses keeps them all if it puts a restriction on rows, and none if not. -/
theorem boundOf_map_cons (g : ResolvedNode) (xs : List (ResolvedClause × List ResolvedNode)) :
    compiler.boundOf (xs.map fun (c, gs) => (c, g :: gs)) =
      if compiler.restricts g then compiler.boundOf xs else [] := by
  rw [boundOf, List.filter_map, List.map_map]
  split
  case isTrue h => simp [boundOf, Function.comp_def, h]
  case isFalse h => simp [Function.comp_def, h]

theorem boundOf_eq_nil {n : ResolvedNode} (h : compiler.restricts n = false) :
    compiler.boundOf n.clausesWithGroups = [] := by
  cases n with
  | clause c => simp [restricts_clause] at h
  | group connective children p => simp [ResolvedNode.clausesWithGroups, boundOf_map_cons, h]

mutual

/-- The clauses of a layout are those around which every group puts a restriction. -/
theorem clauses_layout : (n : ResolvedNode) →
    Piece.clauses (compiler.layout n) = compiler.boundOf n.clausesWithGroups
  | .clause _ => rfl
  | .group connective children p => by
    rw [layout, ResolvedNode.clausesWithGroups, boundOf_map_cons]
    split
    · simp [Piece.clauses_intercalate, flatMap_clauses_layouts children]
    · rfl

theorem flatMap_clauses_layouts : (ns : List ResolvedNode) →
    (compiler.layouts ns).flatMap Piece.clauses =
      compiler.boundOf (ResolvedNode.clausesWithGroupsOfList ns)
  | [] => rfl
  | n :: ns => by
    rw [layouts, ResolvedNode.clausesWithGroupsOfList, boundOf_append]
    split
    case isTrue h =>
      rw [List.flatMap_cons, clauses_layout n, flatMap_clauses_layouts ns]
    case isFalse h =>
      rw [boundOf_eq_nil (by simpa using h), flatMap_clauses_layouts ns, List.nil_append]

end

theorem mem_clauses_of_mem_layout {n : ResolvedNode} {c : ResolvedClause}
    (h : c ∈ Piece.clauses (compiler.layout n)) : c ∈ n.clauses := by
  rw [clauses_layout, boundOf] at h
  obtain ⟨x, hx, rfl⟩ := List.mem_map.1 h
  rw [← ResolvedNode.map_fst_clausesWithGroups]
  exact List.mem_map_of_mem (List.mem_filter.1 hx).1

/-- The parameters of a row of pieces are those of its clauses. -/
theorem params_assemble (ps : List Piece) :
    (compiler.assemble ps).params =
      (Piece.clauses ps).flatMap fun c => (compiler.clauseFragment c).params := by
  induction ps with
  | nil => rfl
  | cons p ps ih =>
    rw [assemble_cons, Fragment.params_append, ih]
    cases p <;> simp [pieceFragment]

end Compiler

/-! ### Filters without empty groups -/

/-- No group at or below a node is empty. -/
def Node.NoEmptyGroup (n : Node) : Prop :=
  ∀ is name, n.at? is ≠ some (.group name [])

theorem Node.noEmptyGroup_clause (c : Clause) : (Node.clause c).NoEmptyGroup := by
  intro is name h
  cases is <;> simp [Node.at?] at h

/-- A group is free of empty groups if it has children and all of them are. -/
theorem Node.noEmptyGroup_group_iff {name : Option String} {ns : List Node} :
    (Node.group name ns).NoEmptyGroup ↔ ns ≠ [] ∧ ∀ n ∈ ns, n.NoEmptyGroup := by
  constructor
  · intro h
    refine ⟨fun hns => h [] name (by rw [hns]; rfl), fun n hn is name' hat => ?_⟩
    obtain ⟨j, hj⟩ := List.getElem?_of_mem hn
    exact h (j :: is) name' (by rw [Node.at?, hj, Option.bind_some, hat])
  · rintro ⟨hne, hns⟩ is name' hat
    cases is with
    | nil =>
      obtain ⟨-, rfl⟩ : name = name' ∧ ns = [] := by simpa [Node.at?] using hat
      exact hne rfl
    | cons i is =>
      obtain ⟨n, hn, hat⟩ := Option.bind_eq_some_iff.1 hat
      exact hns n (List.mem_of_getElem? hn) is name' hat

namespace Compiler

variable {compiler : Compiler} {catalog : Catalog} {table : OperatorTable}

mutual

/-- A node without empty groups puts a restriction on rows, and so does each group below it. -/
theorem restricts_of_noEmptyGroup : (n : Node) → ∀ {p r part},
    n.resolve catalog table p = .ok r → n.NoEmptyGroup → compiler.nodeCondition r = .ok part →
    part ≠ none ∧ ∀ x ∈ r.clausesWithGroups, ∀ g ∈ x.2, compiler.restricts g = true
  | .clause c, p, r, part, hr, _, hpart => by
    obtain ⟨r', -, rfl⟩ := Node.resolve_clause_eq_ok_iff.1 hr
    obtain ⟨f, -, rfl⟩ := nodeCondition_clause_eq_ok_iff.1 hpart
    simp [ResolvedNode.clausesWithGroups]
  | .group name [], p, r, part, _, hn, _ => absurd rfl (Node.noEmptyGroup_group_iff.1 hn).1
  | .group name (m :: ms), p, r, part, hr, hn, hpart => by
    obtain ⟨connective, rs, -, hrs, rfl⟩ := Node.resolve_group_eq_ok_iff.1 hr
    obtain ⟨parts, hparts, hjoin⟩ := nodeCondition_group_eq_ok_iff.1 hpart
    obtain ⟨hnone, hinner⟩ := restrict_of_noEmptyGroup (m :: ms) hrs
      (Node.noEmptyGroup_group_iff.1 hn).2 hparts
    -- the first child has a condition, so there is something to join
    obtain ⟨r', rs', -, -, rfl⟩ := Node.resolveList_cons_eq_ok_iff.1 hrs
    obtain ⟨first, rest, -, -, rfl⟩ := nodeConditions_cons_eq_ok_iff.1 hparts
    obtain ⟨f, rfl⟩ : ∃ f, first = some f :=
      Option.ne_none_iff_exists'.1 fun h => hnone (h ▸ List.mem_cons_self)
    have hsome : joinConditions connective (some f :: rest) = some _ :=
      joinConditions_eq_some_iff.2 ⟨by simp, fun _ => hnone, rfl⟩
    rw [hsome] at hjoin
    subst hjoin
    refine ⟨Option.some_ne_none _, fun x hx => ?_⟩
    obtain ⟨y, hy, rfl⟩ := List.mem_map.1 hx
    exact List.forall_mem_cons.2 ⟨restricts_of_eq_some hpart, hinner y hy⟩

theorem restrict_of_noEmptyGroup : (ns : List Node) → ∀ {p i rs parts},
    Node.resolveList catalog table p i ns = .ok rs → (∀ n ∈ ns, n.NoEmptyGroup) →
    compiler.nodeConditions rs = .ok parts →
    none ∉ parts ∧
      ∀ x ∈ ResolvedNode.clausesWithGroupsOfList rs, ∀ g ∈ x.2, compiler.restricts g = true
  | [], p, i, rs, parts, hrs, _, hparts => by
    cases hrs
    cases hparts
    simp [ResolvedNode.clausesWithGroupsOfList]
  | n :: ns, p, i, rs, parts, hrs, hn, hparts => by
    obtain ⟨r, rs', hr, hrs', rfl⟩ := Node.resolveList_cons_eq_ok_iff.1 hrs
    obtain ⟨part, parts', hpart, hparts', rfl⟩ := nodeConditions_cons_eq_ok_iff.1 hparts
    obtain ⟨hfirst, hrest⟩ := List.forall_mem_cons.1 hn
    obtain ⟨hsome, hgroups⟩ := restricts_of_noEmptyGroup n hr hfirst hpart
    obtain ⟨hsomes, hgroups'⟩ := restrict_of_noEmptyGroup ns hrs' hrest hparts'
    refine ⟨by simp [hsome.symm, hsomes], fun x hx => ?_⟩
    rcases List.mem_append.1 hx with hx | hx
    · exact hgroups x hx
    · exact hgroups' x hx

end

/-- In a filter without empty groups every clause is bound. -/
theorem boundClauses_eq_clauses {f : Filter} {r : ResolvedFilter} {part : Option Fragment}
    (hr : compiler.resolve f = .ok r) (hpart : compiler.nodeCondition r.toNode = .ok part)
    (hf : f.toNode.NoEmptyGroup) : compiler.boundClauses r = r.clauses := by
  obtain ⟨-, hgroups⟩ := restricts_of_noEmptyGroup f.toNode (resolve_toNode_eq_ok hr) hf hpart
  have hall : ∀ x ∈ r.toNode.clausesWithGroups, x.2.all compiler.restricts = true :=
    fun x hx => List.all_eq_true.2 (hgroups x hx)
  rw [boundClauses, boundOf, List.filter_eq_self.2 hall,
    ResolvedNode.map_fst_clausesWithGroups, ResolvedFilter.clauses_toNode]

/-! ### Numbers -/

/-- Where a clause stands among those of some pieces, the pieces are those before it, its own and
those after it. -/
theorem Piece.exists_of_clauses_eq {ps : List Piece} {before after : List ResolvedClause}
    {c : ResolvedClause} (h : Piece.clauses ps = before ++ c :: after) :
    ∃ qs rs, ps = qs ++ .clause c :: rs ∧ Piece.clauses qs = before := by
  obtain ⟨qs, rs, rfl, rfl, hrs⟩ := List.filterMap_eq_append_iff.1 h
  obtain ⟨qs', p, rs, rfl, hskip, hp, -⟩ := List.filterMap_eq_cons_iff.1 hrs
  obtain rfl : p = .clause c := by
    cases p <;> simp_all [Piece.clause?]
  have hqs' : Piece.clauses qs' = [] := List.filterMap_eq_nil_iff.2 hskip
  exact ⟨qs ++ qs', rs, by simp, by rw [Piece.clauses_append, hqs', List.append_nil]; rfl⟩

/-- The tokens of a piece, given those of the conditions of clauses. -/
def Piece.tokens (tokens : ResolvedClause → List Token) : Piece → List Token
  | .opening _ => [.literal "("]
  | .separator _ connective => [.literal connective.separator]
  | .closing _ => [.literal ")"]
  | .clause c => tokens c

/-- A row of pieces is the image of its tokens. -/
theorem assemble_eq_fragmentOf (tokens : ResolvedClause → List Token) {ps : List Piece}
    (h : ∀ c ∈ Piece.clauses ps, compiler.clauseFragment c = Token.fragmentOf (tokens c)) :
    compiler.assemble ps = Token.fragmentOf (ps.flatMap (Piece.tokens tokens)) := by
  induction ps with
  | nil => rfl
  | cons p ps ih =>
    rw [← List.singleton_append, Piece.clauses_append] at h
    have hp : compiler.pieceFragment p = Token.fragmentOf (Piece.tokens tokens p) := by
      cases p with
      | clause c => exact h c (by simp)
      | opening p => exact (Token.fragmentOf_literal "(").symm
      | separator p connective => exact (Token.fragmentOf_literal connective.separator).symm
      | closing p => exact (Token.fragmentOf_literal ")").symm
    have hps := ih fun c hc => h c (List.mem_append_right _ hc)
    rw [assemble_cons, hp, hps, List.flatMap_cons, Token.fragmentOf_append]

/-- Each clause stands in the numbered text of a row of pieces, with its placeholders numbered after
those of the clauses before it. -/
theorem exists_numbered_of_split (tokens : ResolvedClause → List Token) {ps : List Piece}
    (h : ∀ c ∈ Piece.clauses ps, compiler.clauseFragment c = Token.fragmentOf (tokens c))
    {before after : List ResolvedClause} {c : ResolvedClause}
    (hsplit : Piece.clauses ps = before ++ c :: after) :
    ∃ s t, (compiler.assemble ps).numbered =
      s ++ Token.numberedFrom
        (1 + (before.flatMap fun b => (compiler.clauseFragment b).params).length) (tokens c) ++
          t := by
  obtain ⟨qs, rs, rfl, rfl⟩ := Piece.exists_of_clauses_eq hsplit
  have hqs : ∀ b ∈ Piece.clauses qs, compiler.clauseFragment b = Token.fragmentOf (tokens b) :=
    fun b hb => h b (by simp [hb])
  have hparams : Token.paramsOf (qs.flatMap (Piece.tokens tokens)) =
      (Piece.clauses qs).flatMap fun b => (compiler.clauseFragment b).params := by
    rw [← params_assemble, assemble_eq_fragmentOf tokens hqs]
    rfl
  rw [assemble_eq_fragmentOf tokens h, (Token.shows_fragmentOf _).numbered, List.flatMap_append,
    List.flatMap_cons, Token.numberedFrom_append, Token.numberedFrom_append, hparams,
    Piece.tokens, ← String.append_assoc]
  exact ⟨_, _, rfl⟩

/-! ### Filters -/

/-- The query of a condition over a table puts a piece of SQL before it. -/
theorem query_eq_of_condition {f : Filter} {condition : Fragment} {name : String}
    (h : compiler.condition f = .ok (some condition))
    (hname : Identifier.read compiler.table = .ok name) :
    compiler.query f = .ok (.sql ("SELECT * FROM " ++ name ++ " WHERE ") ++ condition) := by
  refine query_eq_ok_iff.2 ⟨some condition, name, h, hname, ?_⟩
  simp [Fragment.push, Fragment.sql_append]

/-- The parameters of a condition are those of its clauses in the order of the filter, for the
clauses around which every group puts a restriction on rows, and thus of all clauses where no group
is empty. The query has the same parameters, its numbered text is that of the condition behind the
name of the table, and the placeholders of a clause are numbered in it from the place of its first
parameter on. -/
theorem params_in_clause_order (compiler : Compiler) (f : Filter) (condition : Fragment)
    (h : compiler.condition f = .ok (some condition)) :
    ∃ r, compiler.resolve f = .ok r ∧
      (∀ c ∈ r.clauses, compiler.clauseCondition c = .ok (compiler.clauseFragment c)) ∧
      r.toNode.clausesWithGroups.map Prod.fst = r.clauses ∧
      condition.params =
        (compiler.boundClauses r).flatMap (fun c => (compiler.clauseFragment c).params) ∧
      (f.toNode.NoEmptyGroup → compiler.boundClauses r = r.clauses) ∧
      ∀ name, Identifier.read compiler.table = .ok name →
        ∃ q, compiler.query f = .ok q ∧ q.params = condition.params ∧
          q.numbered = "SELECT * FROM " ++ name ++ " WHERE " ++ condition.numbered ∧
          ∀ tokens : ResolvedClause → List Token,
            (∀ c ∈ compiler.boundClauses r,
              compiler.clauseFragment c = Token.fragmentOf (tokens c)) →
            ∀ before c after, compiler.boundClauses r = before ++ c :: after →
              ∃ s t, q.numbered =
                s ++ Token.numberedFrom
                  (1 + (before.flatMap fun b => (compiler.clauseFragment b).params).length)
                  (tokens c) ++ t := by
  obtain ⟨r, hr, -⟩ := bind_eq_ok_iff.1 h
  have hnode : compiler.nodeCondition r.toNode = .ok (some condition) := by
    rw [← condition_eq_nodeCondition hr, h]
  have hbound : Piece.clauses (compiler.layout r.toNode) = compiler.boundClauses r :=
    clauses_layout r.toNode
  have hassemble : compiler.assemble (compiler.layout r.toNode) = condition :=
    assemble_layout r.toNode hnode
  refine ⟨r, hr, fun c hc => ?_, ResolvedNode.map_fst_clausesWithGroups r.toNode, ?_,
    boundClauses_eq_clauses hr hnode, fun name hname => ?_⟩
  · obtain ⟨g, hg⟩ := clauseCondition_of_nodeCondition_eq_ok r.toNode hnode c hc
    rw [clauseFragment_eq hg, hg]
  · rw [← hassemble, params_assemble, hbound]
  · refine ⟨_, query_eq_of_condition h hname, by simp, Fragment.numbered_sql_append _ _, ?_⟩
    intro tokens htokens before c after hsplit
    rw [← hbound] at htokens hsplit
    obtain ⟨s, t, hnumbered⟩ := exists_numbered_of_split tokens htokens hsplit
    refine ⟨"SELECT * FROM " ++ name ++ " WHERE " ++ s, t, ?_⟩
    rw [Fragment.numbered_sql_append, ← hassemble, hnumbered]
    simp only [String.append_assoc]

/-- The parameters of a group that is lifted by an empty one are dropped, those of an override
count, and the last clause is numbered from the place of its own parameter on. -/
theorem params_in_clause_order_past_lifted_group :
    let scoops (n : String) : Node := .clause ⟨"Scoops", ">=", .string n⟩
    let mint : Node := .clause ⟨"Flavor", "is", .string "Mint"⟩
    let f : Filter := ⟨some "&", [mint, .group (some "|") [scoops "5", .group none []], scoops "2"]⟩
    let g : Filter := ⟨some "or", [mint, .group none [scoops "2"]]⟩
    let recipe : Recipe := [.build (.push "(? = "), .bindRaw, .build (.push " OR "), .default,
      .build (.push ")")]
    let compiler : Compiler := { sample with
      table := " public.\"ice cream\" "
      overrides := ⟨[(("Flavor", .string), recipe.override)]⟩ }
    (∃ condition r q, compiler.condition f = .ok (some condition) ∧ compiler.resolve f = .ok r ∧
      condition.params =
        (compiler.boundClauses r).flatMap (fun c => (compiler.clauseFragment c).params) ∧
      condition.params.length = 3 ∧
      Identifier.read compiler.table = .ok "public.\"ice cream\"" ∧ compiler.query f = .ok q ∧
      q.params = condition.params ∧
      q.numbered = "SELECT * FROM public.\"ice cream\" WHERE " ++ condition.numbered ∧
      ∃ s t, q.numbered = s ++ "(num_scoops >= $3)" ++ t) ∧
    ∃ condition r, compiler.condition g = .ok (some condition) ∧ compiler.resolve g = .ok r ∧
      g.toNode.NoEmptyGroup ∧ compiler.boundClauses r = r.clauses := by
  intro scoops mint f g recipe compiler
  refine ⟨?lifted, ?full⟩
  case lifted =>
    let flavor : ResolvedClause := ⟨⟨"Flavor", "is", .string "Mint"⟩,
      { displayName := "Flavor", column := "flavor", types := [.string] },
      { name := "is", type := .string }, .text "Mint", ⟨[0]⟩⟩
    let two : ResolvedClause := ⟨⟨"Scoops", ">=", .string "2"⟩,
      { displayName := "Scoops", column := "num_scoops", types := [.numeric, .nullable] },
      { name := ">=", type := .numeric }, .int 2, ⟨[2]⟩⟩
    let five : ResolvedClause := { two with
      clause := ⟨"Scoops", ">=", .string "5"⟩, value := .int 5, path := ⟨[1, 0]⟩ }
    let tokens (c : ResolvedClause) : List Token :=
      if c.source.displayName = "Flavor" then
        [.literal "(? = ", .param (.json (.string "Mint")), .literal "::jsonb OR (flavor = ",
          .param (.text "Mint"), .literal "))"]
      else [.literal "(num_scoops >= ", .param (.int 2), .literal ")"]
    let r : ResolvedFilter := ⟨.all, [.clause flavor, .group .any [.clause five,
      .group .all [] ⟨[1, 1]⟩] ⟨[1]⟩, .clause two], .root⟩
    have hr : compiler.resolve f = .ok r := rfl
    have htable : Identifier.read " public.\"ice cream\" " = .ok "public.\"ice cream\"" := rfl
    have hroot : compiler.restricts (.group r.connective r.children r.path) = true := by
      decide +kernel +zetaReduce
    have hlifted : compiler.restricts (.group .any [.clause five, .group .all [] ⟨[1, 1]⟩] ⟨[1]⟩) =
        false := by
      decide +kernel +zetaReduce
    have hbound : compiler.boundClauses r = [flavor] ++ two :: [] := by
      rw [boundClauses, ResolvedFilter.toNode, ResolvedNode.clausesWithGroups, boundOf_map_cons,
        if_pos hroot]
      simp only [r, ResolvedNode.clausesWithGroupsOfList, boundOf_append, boundOf_eq_nil hlifted]
      rfl
    have hflavor : compiler.clauseFragment flavor = Token.fragmentOf (tokens flavor) := by
      dsimp only [compiler, flavor, tokens]
      rfl
    have htwo : compiler.clauseFragment two = Token.fragmentOf (tokens two) := by
      dsimp only [compiler, two, tokens]
      rfl
    have hfirst : ([flavor].flatMap fun c => (compiler.clauseFragment c).params).length = 2 := by
      rw [List.flatMap_singleton, hflavor]
      rfl
    obtain ⟨r', hr', -, -, hparams, -, hquery⟩ := params_in_clause_order compiler f _ rfl
    obtain rfl : r = r' := Except.ok.inj (hr.symm.trans hr')
    obtain ⟨q, hq, hqparams, hnumbered, hclause⟩ := hquery _ htable
    obtain ⟨s, t, hlast⟩ := hclause tokens (by simp [hbound, hflavor, htwo]) _ _ _ hbound
    rw [hfirst] at hlast
    exact ⟨_, r, q, rfl, hr, hparams, rfl, htable, hq, hqparams, hnumbered, s, t, hlast⟩
  case full =>
    have hg : g.toNode.NoEmptyGroup := by
      simp [g, Filter.toNode, mint, scoops, Node.noEmptyGroup_group_iff, Node.noEmptyGroup_clause]
    obtain ⟨r, hr, -, -, -, hbound, -⟩ := params_in_clause_order compiler g _ rfl
    exact ⟨_, r, rfl, hr, hg, hbound hg⟩

end Compiler

end FilterSql
