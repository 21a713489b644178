import FilterSql.Proofs.Resolution.Basic
import FilterSql.Proofs.Sql.Fragment

/-!
# The layout of a condition

The condition of a filter is a row of pieces: the conditions of its clauses and, for each group that
puts a restriction on rows, the parentheses around it and what stands between two of its parts. A
group that puts none has left no piece behind, and neither has anything inside it.

## Main definitions

* `FilterSql.Piece`: a piece of a condition.
* `FilterSql.Compiler.restricts`: whether a node puts a restriction on rows.
* `FilterSql.Compiler.layout`: the pieces of the condition of a node.
* `FilterSql.Compiler.assemble`: the fragment of a row of pieces.
* `FilterSql.Piece.clauses`: the clauses among some pieces.
* `FilterSql.Compiler.Contributes`: the nodes that have a part in the condition of a node.

## Main results

* `FilterSql.Compiler.joinConditions_eq_some_iff`: when a group has a condition, and which.
* `FilterSql.Compiler.assemble_layout`: the condition of a node is assembled from its layout.
* `FilterSql.Compiler.Contributes.exists_layout`: the layout of a part within that of the whole.
* `FilterSql.Compiler.at?_of_separator_mem_layout`: the groups that separators belong to.
-/

namespace FilterSql

/-- A piece of the condition of a filter. -/
inductive Piece where
  /-- The parenthesis that opens the group at a place. -/
  | opening (p : Path)
  /-- What stands between two parts of the group at a place. -/
  | separator (p : Path) (connective : Connective)
  /-- The parenthesis that closes the group at a place. -/
  | closing (p : Path)
  /-- The condition of a clause. -/
  | clause (c : ResolvedClause)

/-- The clause that a piece is the condition of. -/
def Piece.clause? : Piece → Option ResolvedClause
  | .clause c => some c
  | _ => none

/-- The clauses among some pieces. -/
def Piece.clauses (ps : List Piece) : List ResolvedClause :=
  ps.filterMap clause?

@[simp] theorem Piece.clauses_nil : clauses [] = [] := rfl

@[simp] theorem Piece.clauses_opening (p : Path) (ps : List Piece) :
    clauses (.opening p :: ps) = clauses ps := rfl

@[simp] theorem Piece.clauses_separator (p : Path) (connective : Connective) (ps : List Piece) :
    clauses (.separator p connective :: ps) = clauses ps := rfl

@[simp] theorem Piece.clauses_closing (p : Path) (ps : List Piece) :
    clauses (.closing p :: ps) = clauses ps := rfl

@[simp] theorem Piece.clauses_clause (c : ResolvedClause) (ps : List Piece) :
    clauses (.clause c :: ps) = c :: clauses ps := rfl

@[simp] theorem Piece.clauses_append (ps qs : List Piece) :
    clauses (ps ++ qs) = clauses ps ++ clauses qs :=
  List.filterMap_append

/-- What stands between two parts of a group has no clauses. -/
theorem Piece.clauses_intercalate (p : Path) (connective : Connective) (pss : List (List Piece)) :
    clauses (List.intercalate [.separator p connective] pss) = pss.flatMap clauses := by
  induction pss with
  | nil => rfl
  | cons ps pss ih =>
    cases pss with
    | nil => simp [List.intercalate]
    | cons qs pss =>
      rw [List.intercalate_cons_cons, clauses_append, clauses_append, ih]
      simp

namespace Compiler

variable {compiler : Compiler}

/-! ### Groups with a condition -/

/-- A group has a condition if one of its children has one and, in a group one of whose conditions
has to hold, all of them have. It joins those of the children. -/
theorem joinConditions_eq_some_iff {connective : Connective} {parts : List (Option Fragment)}
    {f : Fragment} :
    joinConditions connective parts = some f ↔
      parts.filterMap id ≠ [] ∧ (connective = .any → none ∉ parts) ∧
        (Fragment.join connective.separator (parts.filterMap id)).parenthesize = f := by
  have hnone : parts.any Option.isNone = true ↔ none ∈ parts := by
    simp [List.any_eq_true, Option.isNone_iff_eq_none]
  rw [joinConditions]
  split
  case isTrue h =>
    simp only [Bool.or_eq_true, List.isEmpty_iff, Bool.and_eq_true, beq_iff_eq, hnone] at h
    simp only [reduceCtorEq, false_iff, not_and]
    intro hparts hkeep
    exact absurd (h.resolve_left hparts).2 (hkeep (h.resolve_left hparts).1)
  case isFalse h =>
    simp only [Bool.or_eq_true, List.isEmpty_iff, Bool.and_eq_true, beq_iff_eq, hnone, not_or,
      not_and] at h
    simp only [Option.some.injEq, ne_eq, h.1, not_false_eq_true, true_and]
    exact (and_iff_right h.2).symm

/-! ### Pieces -/

/-- The condition of a clause, or nothing if it has none. -/
def clauseFragment (compiler : Compiler) (c : ResolvedClause) : Fragment :=
  (compiler.clauseCondition c).toOption.getD .empty

theorem clauseFragment_eq {c : ResolvedClause} {f : Fragment}
    (h : compiler.clauseCondition c = .ok f) : compiler.clauseFragment c = f := by
  rw [clauseFragment, h]
  rfl

/-- The fragment of a piece. -/
def pieceFragment (compiler : Compiler) : Piece → Fragment
  | .opening _ => .sql "("
  | .separator _ connective => .sql connective.separator
  | .closing _ => .sql ")"
  | .clause c => compiler.clauseFragment c

/-- The fragment of a row of pieces. -/
def assemble (compiler : Compiler) : List Piece → Fragment
  | [] => .empty
  | p :: ps => compiler.pieceFragment p ++ compiler.assemble ps

@[simp] theorem assemble_nil : compiler.assemble [] = .empty := rfl

@[simp] theorem assemble_cons (p : Piece) (ps : List Piece) :
    compiler.assemble (p :: ps) = compiler.pieceFragment p ++ compiler.assemble ps := rfl

@[simp] theorem assemble_append (ps qs : List Piece) :
    compiler.assemble (ps ++ qs) = compiler.assemble ps ++ compiler.assemble qs := by
  induction ps with
  | nil => simp
  | cons p ps ih => simp [ih, Fragment.append_assoc]

/-- Pieces with the separator of a group between two make the joined fragments. -/
theorem assemble_intercalate (p : Path) (connective : Connective) (pss : List (List Piece)) :
    compiler.assemble (List.intercalate [.separator p connective] pss) =
      Fragment.join connective.separator (pss.map compiler.assemble) := by
  induction pss with
  | nil => rfl
  | cons ps pss ih =>
    cases pss with
    | nil => simp [List.intercalate, Fragment.join]
    | cons qs pss =>
      rw [List.intercalate_cons_cons, assemble_append, assemble_append, ih]
      simp [Fragment.join_cons_cons, pieceFragment]

/-! ### Layouts -/

/-- Whether a node puts a restriction on rows. -/
def restricts (compiler : Compiler) (n : ResolvedNode) : Bool :=
  match compiler.nodeCondition n with
  | .ok none => false
  | _ => true

theorem restricts_of_eq_some {n : ResolvedNode} {f : Fragment}
    (h : compiler.nodeCondition n = .ok (some f)) : compiler.restricts n = true := by
  rw [restricts, h]

theorem restricts_of_eq_none {n : ResolvedNode} (h : compiler.nodeCondition n = .ok none) :
    compiler.restricts n = false := by
  rw [restricts, h]

/-- A clause always puts a restriction on rows. -/
theorem restricts_clause (c : ResolvedClause) : compiler.restricts (.clause c) = true := by
  rw [restricts, nodeCondition]
  cases compiler.clauseCondition c <;> rfl

mutual

/-- The pieces of the condition of a node; a node without a restriction has none. -/
def layout (compiler : Compiler) : ResolvedNode → List Piece
  | .clause c => [.clause c]
  | .group connective children p =>
    if compiler.restricts (.group connective children p) then
      .opening p :: List.intercalate [.separator p connective] (compiler.layouts children) ++
        [.closing p]
    else []
termination_by structural n => n

/-- The pieces of the conditions of the nodes of a group, for those with a restriction. -/
def layouts (compiler : Compiler) : List ResolvedNode → List (List Piece)
  | [] => []
  | n :: ns =>
    if compiler.restricts n then compiler.layout n :: compiler.layouts ns
    else compiler.layouts ns
termination_by structural ns => ns

end

theorem mem_layouts_iff {ns : List ResolvedNode} {ps : List Piece} :
    ps ∈ compiler.layouts ns ↔ ∃ n ∈ ns, compiler.restricts n = true ∧ compiler.layout n = ps := by
  induction ns with
  | nil => simp [layouts]
  | cons n ns ih =>
    simp only [List.mem_cons, exists_eq_or_imp]
    rw [layouts]
    split
    case isTrue h => rw [List.mem_cons, ih, eq_comm, and_iff_right h]
    case isFalse h => rw [ih, or_iff_right fun ⟨h', _⟩ => h h']

mutual

/-- The condition of a node is assembled from its layout. -/
theorem assemble_layout : (n : ResolvedNode) → ∀ {f : Fragment},
    compiler.nodeCondition n = .ok (some f) → compiler.assemble (compiler.layout n) = f
  | .clause c, f, h => by
    obtain ⟨g, hg, hgf⟩ := nodeCondition_clause_eq_ok_iff.1 h
    obtain rfl : g = f := Option.some.inj hgf
    simp [layout, pieceFragment, clauseFragment_eq hg]
  | .group connective children p, f, h => by
    have hrestricts := restricts_of_eq_some h
    obtain ⟨parts, hparts, hjoin⟩ := nodeCondition_group_eq_ok_iff.1 h
    obtain ⟨-, -, rfl⟩ := joinConditions_eq_some_iff.1 hjoin
    rw [layout, if_pos hrestricts, assemble_append, assemble_cons, assemble_intercalate,
      map_assemble_layouts children hparts, Fragment.parenthesize_eq_append]
    simp [pieceFragment]

/-- The conditions of the nodes of a group are assembled from their layouts. -/
theorem map_assemble_layouts : (ns : List ResolvedNode) → ∀ {parts : List (Option Fragment)},
    compiler.nodeConditions ns = .ok parts →
    (compiler.layouts ns).map compiler.assemble = parts.filterMap id
  | [], parts, h => by
    cases h
    rfl
  | n :: ns, parts, h => by
    obtain ⟨part, parts', hn, hns, rfl⟩ := nodeConditions_cons_eq_ok_iff.1 h
    cases part with
    | none =>
      rw [layouts, if_neg (by simp [restricts_of_eq_none hn]), map_assemble_layouts ns hns]
      rfl
    | some f =>
      rw [layouts, if_pos (restricts_of_eq_some hn), List.map_cons, assemble_layout n hn,
        map_assemble_layouts ns hns]
      rfl

end

/-! ### The parts of nested groups -/

/-- A node has a part in the condition of a node if it is this node or lies below it, and all nodes
from one to the other put a restriction on rows. -/
inductive Contributes (compiler : Compiler) : ResolvedNode → ResolvedNode → Prop
  | self {n : ResolvedNode} (h : compiler.restricts n = true) : Contributes compiler n n
  | child {connective : Connective} {ns : List ResolvedNode} {p : Path} {m n : ResolvedNode}
      (h : compiler.restricts (.group connective ns p) = true) (hm : m ∈ ns)
      (hn : Contributes compiler m n) : Contributes compiler (.group connective ns p) n

/-- One of several lists stands between the others once they are joined. -/
theorem exists_intercalate_of_mem {α : Type} (separator : List α) {xs : List α}
    {xss : List (List α)} (h : xs ∈ xss) :
    ∃ before after, List.intercalate separator xss = before ++ xs ++ after := by
  induction xss with
  | nil => cases h
  | cons ys xss ih =>
    rcases List.mem_cons.1 h with rfl | h
    · cases xss with
      | nil => exact ⟨[], [], by simp [List.intercalate]⟩
      | cons zs xss =>
        refine ⟨[], separator ++ List.intercalate separator (zs :: xss), ?_⟩
        rw [List.intercalate_cons_cons, List.nil_append, List.append_assoc]
    · obtain ⟨before, after, hsplit⟩ := ih h
      cases xss with
      | nil => cases h
      | cons zs xss =>
        refine ⟨ys ++ separator ++ before, after, ?_⟩
        rw [List.intercalate_cons_cons, hsplit]
        simp only [List.append_assoc]

theorem exists_nodeCondition_of_mem {n : ResolvedNode} {ns : List ResolvedNode}
    {parts : List (Option Fragment)} (hn : n ∈ ns) (h : compiler.nodeConditions ns = .ok parts) :
    ∃ part, compiler.nodeCondition n = .ok part := by
  induction ns generalizing parts with
  | nil => cases hn
  | cons m ns ih =>
    obtain ⟨part, parts, hpart, hparts, -⟩ := nodeConditions_cons_eq_ok_iff.1 h
    rcases List.mem_cons.1 hn with rfl | hn
    · exact ⟨part, hpart⟩
    · exact ih hn hparts

namespace Contributes

variable {m n : ResolvedNode}

theorem restricts_left (h : compiler.Contributes m n) : compiler.restricts m = true := by
  cases h with
  | self h => exact h
  | child h _ _ => exact h

theorem restricts_right (h : compiler.Contributes m n) : compiler.restricts n = true := by
  induction h with
  | self h => exact h
  | child _ _ _ ih => exact ih

/-- The clauses of a part are among those of the whole. -/
theorem mem_clauses (h : compiler.Contributes m n) : ∀ c ∈ n.clauses, c ∈ m.clauses := by
  induction h with
  | self _ => exact fun c hc => hc
  | child _ hm _ ih => exact fun c hc => ResolvedNode.mem_clausesOfList.2 ⟨_, hm, ih c hc⟩

/-- The layout of a part stands in that of the whole. -/
theorem exists_layout (h : compiler.Contributes m n) :
    ∃ before after, compiler.layout m = before ++ compiler.layout n ++ after := by
  induction h with
  | self _ => exact ⟨[], [], by simp⟩
  | @child connective ns p k n hrestricts hk hn ih =>
    obtain ⟨before, after, hk'⟩ := ih
    obtain ⟨before', after', hsplit⟩ := exists_intercalate_of_mem [.separator p connective]
      (mem_layouts_iff.2 ⟨k, hk, hn.restricts_left, rfl⟩)
    refine ⟨.opening p :: before' ++ before, after ++ after' ++ [.closing p], ?_⟩
    rw [layout, if_pos hrestricts, hsplit, hk']
    simp only [List.cons_append, List.append_assoc]

/-- A part of a node with a condition has one itself. -/
theorem exists_condition (h : compiler.Contributes m n) {part : Option Fragment}
    (hm : compiler.nodeCondition m = .ok part) : ∃ f, compiler.nodeCondition n = .ok (some f) := by
  induction h generalizing part with
  | self hrestricts =>
    cases part with
    | none =>
      rw [restricts_of_eq_none hm] at hrestricts
      cases hrestricts
    | some f => exact ⟨f, hm⟩
  | child _ hk _ ih =>
    obtain ⟨parts, hparts, -⟩ := nodeCondition_group_eq_ok_iff.1 hm
    obtain ⟨part', hpart'⟩ := exists_nodeCondition_of_mem hk hparts
    exact ih hpart'

end Contributes

/-! ### The groups of separators -/

theorem mem_or_exists_of_mem_intercalate {α : Type} {separator : List α} {xss : List (List α)}
    {x : α} (h : x ∈ List.intercalate separator xss) : x ∈ separator ∨ ∃ xs ∈ xss, x ∈ xs := by
  induction xss with
  | nil => cases h
  | cons xs xss ih =>
    cases xss with
    | nil => exact .inr ⟨xs, List.mem_cons_self, by simpa [List.intercalate] using h⟩
    | cons ys xss =>
      rw [List.intercalate_cons_cons, List.mem_append, List.mem_append] at h
      rcases h with (h | h) | h
      · exact .inr ⟨xs, List.mem_cons_self, h⟩
      · exact .inl h
      · rcases ih h with h | ⟨zs, hzs, h⟩
        · exact .inl h
        · exact .inr ⟨zs, List.mem_cons_of_mem xs hzs, h⟩

section Places

variable {catalog : Catalog} {table : OperatorTable} {q : Path} {connective : Connective}

mutual

/-- A separator in the layout of a node has the place and the connective of a group at or below
it. -/
theorem at?_of_separator_mem_layout : (n : Node) → ∀ {p r}, n.resolve catalog table p = .ok r →
    .separator q connective ∈ compiler.layout r → ∃ is name ns, q.indexes = p.indexes ++ is ∧
      n.at? is = some (.group name ns) ∧ Connective.ofText? name = some connective
  | .clause c, p, r, hr, h => by
    obtain ⟨r', -, rfl⟩ := Node.resolve_clause_eq_ok_iff.1 hr
    simp [layout] at h
  | .group name ns, p, r, hr, h => by
    obtain ⟨connective', rs, hconnective, hrs, rfl⟩ := Node.resolve_group_eq_ok_iff.1 hr
    rw [layout] at h
    split at h
    case isFalse => cases h
    case isTrue =>
      obtain h : .separator q connective ∈
          List.intercalate [.separator p connective'] (compiler.layouts rs) := by
        simpa using h
      rcases mem_or_exists_of_mem_intercalate h with h | ⟨ps, hps, h⟩
      · obtain ⟨rfl, rfl⟩ : q = p ∧ connective = connective' := by simpa using h
        exact ⟨[], name, ns, by simp, rfl, hconnective⟩
      · obtain ⟨j, n, is, name', ms, hn, hpath, hat, hname⟩ :=
          getElem?_of_separator_mem_layouts ns hrs hps h
        refine ⟨j :: is, name', ms, by simpa using hpath, ?_, hname⟩
        rw [Node.at?, hn, Option.bind_some, hat]

theorem getElem?_of_separator_mem_layouts : (ns : List Node) → ∀ {p i rs ps},
    Node.resolveList catalog table p i ns = .ok rs → ps ∈ compiler.layouts rs →
    .separator q connective ∈ ps → ∃ (j : Nat) (n : Node) (is : List Nat) (name : Option String)
      (ms : List Node), ns[j]? = some n ∧ q.indexes = p.indexes ++ (i + j) :: is ∧
      n.at? is = some (.group name ms) ∧ Connective.ofText? name = some connective
  | [], p, i, rs, ps, hrs, hps, _ => by
    cases hrs
    cases hps
  | n :: ns, p, i, rs, ps, hrs, hps, h => by
    obtain ⟨r, rs', hr, hrs', rfl⟩ := Node.resolveList_cons_eq_ok_iff.1 hrs
    have hcases : ps = compiler.layout r ∨ ps ∈ compiler.layouts rs' := by
      rw [layouts] at hps
      split at hps
      · exact List.mem_cons.1 hps
      · exact .inr hps
    rcases hcases with rfl | hps
    · obtain ⟨is, name, ms, hpath, hat, hname⟩ := at?_of_separator_mem_layout n hr h
      exact ⟨0, n, is, name, ms, rfl, by simpa using hpath, hat, hname⟩
    · obtain ⟨j, m, is, name, ms, hm, hpath, hat, hname⟩ :=
        getElem?_of_separator_mem_layouts ns hrs' hps h
      refine ⟨j + 1, m, is, name, ms, by simpa using hm, ?_, hat, hname⟩
      rwa [Nat.add_assoc, Nat.add_comm 1 j] at hpath

end

end Places

end Compiler

end FilterSql
