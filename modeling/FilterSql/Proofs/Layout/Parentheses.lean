import FilterSql.Proofs.Condition.Built
import FilterSql.Proofs.Layout.Parameters
import FilterSql.Proofs.Sql.Nesting

/-!
# The parentheses of groups

Whether `AND` or `OR` binds first is decided by parentheses alone. Over columns that are balanced
themselves, each group that puts a restriction on rows stands between a pair of its own, and no
separator of another group has just the parentheses around it that a separator of this group has.

## Main definitions

* `FilterSql.Compiler.chars`: the characters of a row of pieces.
* `FilterSql.Compiler.Inside`: the group whose parenthesis is the innermost open one.
* `FilterSql.Compiler.Guarded`: pieces whose separators are inside the groups they belong to.

## Main results

* `FilterSql.Compiler.balanced_layout`: the layout of a node is balanced.
* `FilterSql.Compiler.guarded_layout`: each separator of a layout is inside its group.
* `FilterSql.Compiler.Inside.eq_of_sameParentheses`: one group is inside the same parentheses.
* `FilterSql.Compiler.groups_enclosed`: the groups of filters without overrides.
-/

namespace FilterSql

open Template Nesting

/-- What is built from balanced texts is balanced. -/
theorem Fragment.Built.balanced {P : String → Prop} {f : Fragment}
    (hP : ∀ text, P text → Balanced text.toList) (h : Built P f) : Balanced f.text.toList := by
  induction h with
  | empty => exact .nil
  | sql h => exact hP _ h
  | placeholder h =>
    have hempty : Balanced "".toList := .nil
    have hmark : Balanced "?".toList := by decide
    obtain ⟨cast, hcast, htext⟩ := exists_text_placeholder (P := fun s => Balanced s.toList)
      hempty fun type htype => hP _ (h type htype)
    rw [htext, String.toList_append]
    exact hmark.append hcast
  | append _ _ ihf ihg =>
    rw [text_append, String.toList_append]
    exact ihf.append ihg
  | parenthesize _ ih =>
    have hends := ih.enclosed.balanced
    simpa [Fragment.parenthesize] using hends

namespace Compiler

variable {compiler : Compiler}

/-! ### The characters of pieces -/

/-- The characters of a row of pieces. -/
def chars (compiler : Compiler) (ps : List Piece) : List Char :=
  (compiler.assemble ps).text.toList

@[simp] theorem chars_nil : compiler.chars [] = [] := rfl

@[simp] theorem chars_append (ps qs : List Piece) :
    compiler.chars (ps ++ qs) = compiler.chars ps ++ compiler.chars qs := by
  simp [chars]

theorem chars_cons (p : Piece) (ps : List Piece) :
    compiler.chars (p :: ps) = compiler.chars [p] ++ compiler.chars ps :=
  chars_append [p] ps

@[simp] theorem chars_opening (p : Path) : compiler.chars [.opening p] = ['('] := by
  simp [chars, pieceFragment]

@[simp] theorem chars_closing (p : Path) : compiler.chars [.closing p] = [')'] := by
  simp [chars, pieceFragment]

/-- What stands between two parts of a group has no quotes and no parentheses. -/
theorem balanced_separator (p : Path) (connective : Connective) :
    Balanced (compiler.chars [.separator p connective]) := by
  have h : compiler.chars [.separator p connective] = connective.separator.toList := by
    simp [chars, pieceFragment]
  rw [h]
  cases connective <;> decide

/-- Balanced parts of a group are balanced together with what stands between them. -/
theorem balanced_intercalate (p : Path) (connective : Connective) {pss : List (List Piece)}
    (h : ∀ ps ∈ pss, Balanced (compiler.chars ps)) :
    Balanced (compiler.chars (List.intercalate [.separator p connective] pss)) := by
  induction pss with
  | nil => exact .nil
  | cons ps pss ih =>
    obtain ⟨hps, hpss⟩ := List.forall_mem_cons.1 h
    cases pss with
    | nil => simpa [List.intercalate] using hps
    | cons qs pss =>
      rw [List.intercalate_cons_cons, chars_append, chars_append]
      exact (hps.append (balanced_separator p connective)).append (ih hpss)

/-- A group with a restriction has its parts between a pair of parentheses. -/
theorem chars_layout_group {connective : Connective} {ns : List ResolvedNode} {p : Path}
    (h : compiler.restricts (.group connective ns p) = true) :
    compiler.chars (compiler.layout (.group connective ns p)) =
      '(' :: compiler.chars (List.intercalate [.separator p connective] (compiler.layouts ns)) ++
        [')'] := by
  rw [layout, if_pos h, List.cons_append, chars_cons, chars_append, chars_opening, chars_closing]
  rfl

/-- The layout of a node is balanced if the conditions of its clauses are. -/
theorem balanced_layout {n : ResolvedNode}
    (h : ∀ c ∈ n.clauses, Balanced (compiler.chars [.clause c])) :
    Balanced (compiler.chars (compiler.layout n)) := by
  induction n with
  | clause c => exact h c (by simp [ResolvedNode.clauses])
  | group connective ns p ih =>
    by_cases hrestricts : compiler.restricts (.group connective ns p) = true
    · rw [chars_layout_group hrestricts]
      refine (balanced_intercalate p connective fun ps hps => ?_).enclosed.balanced
      obtain ⟨n, hn, -, rfl⟩ := mem_layouts_iff.1 hps
      exact ih n hn fun c hc => h c (ResolvedNode.mem_clausesOfList.2 ⟨n, hn, hc⟩)
    · rw [layout, if_neg hrestricts]
      exact .nil

/-- The layouts of the nodes of a group are balanced. -/
theorem balanced_of_mem_layouts {ns : List ResolvedNode}
    (h : ∀ c ∈ ResolvedNode.clausesOfList ns, Balanced (compiler.chars [.clause c])) :
    ∀ ps ∈ compiler.layouts ns, Balanced (compiler.chars ps) := by
  intro ps hps
  obtain ⟨n, hn, -, rfl⟩ := mem_layouts_iff.1 hps
  exact balanced_layout fun c hc => h c (ResolvedNode.mem_clausesOfList.2 ⟨n, hn, hc⟩)

/-- A group that puts a restriction on rows has a pair of parentheses around it. -/
theorem enclosed_layout {connective : Connective} {ns : List ResolvedNode} {p : Path}
    (hrestricts : compiler.restricts (.group connective ns p) = true)
    (h : ∀ c ∈ ResolvedNode.clausesOfList ns, Balanced (compiler.chars [.clause c])) :
    Enclosed (compiler.chars (compiler.layout (.group connective ns p))) := by
  rw [chars_layout_group hrestricts]
  exact (balanced_intercalate p connective (balanced_of_mem_layouts h)).enclosed

/-! ### The innermost group -/

/-- Behind some pieces the innermost parenthesis that is open is that of the group at a place. -/
def Inside (compiler : Compiler) (p : Path) (ps : List Piece) : Prop :=
  ∃ outer inner, ps = outer ++ .opening p :: inner ∧ Balanced (compiler.chars inner)

theorem inside_opening (p : Path) (ps : List Piece) : compiler.Inside p (ps ++ [.opening p]) :=
  ⟨ps, [], rfl, .nil⟩

theorem Inside.append {p : Path} {ps qs : List Piece} (h : compiler.Inside p ps)
    (hqs : Balanced (compiler.chars qs)) : compiler.Inside p (ps ++ qs) := by
  obtain ⟨outer, inner, rfl, hinner⟩ := h
  refine ⟨outer, inner ++ qs, by simp, ?_⟩
  rw [chars_append]
  exact hinner.append hqs

/-- Each separator among some pieces, which stand behind others, is inside its group. -/
def Guarded (compiler : Compiler) (start ps : List Piece) : Prop :=
  ∀ before p connective after, ps = before ++ .separator p connective :: after →
    compiler.Inside p (start ++ before)

theorem guarded_nil (start : List Piece) : compiler.Guarded start [] := by
  intro before p connective after h
  simp at h

theorem Guarded.append {start ps qs : List Piece} (hps : compiler.Guarded start ps)
    (hqs : compiler.Guarded (start ++ ps) qs) : compiler.Guarded start (ps ++ qs) := by
  intro before p connective after h
  rcases List.append_eq_append_iff.1 h with ⟨first, rfl, hfirst⟩ | ⟨rest, rfl, hrest⟩
  · rw [← List.append_assoc]
    exact hqs first p connective after hfirst
  · cases rest with
    | nil =>
      have hhead := hqs [] p connective after (by simpa using hrest.symm)
      simpa using hhead
    | cons q rest =>
      obtain ⟨rfl, -⟩ := List.cons.inj hrest
      exact hps before p connective rest rfl

/-- A separator is guarded where its group is the innermost one. -/
theorem guarded_separator {start : List Piece} {p : Path} (connective : Connective)
    (h : compiler.Inside p start) : compiler.Guarded start [.separator p connective] := by
  intro before q connective' after hsplit
  cases before with
  | nil =>
    obtain ⟨⟨rfl, -⟩, -⟩ : (p = q ∧ connective = connective') ∧ [] = after := by
      simpa using hsplit
    simpa using h
  | cons _ before => simp at hsplit

/-- Any other piece is guarded as such. -/
theorem guarded_singleton {piece : Piece} (start : List Piece)
    (h : ∀ p connective, piece ≠ .separator p connective) : compiler.Guarded start [piece] := by
  intro before p connective after hsplit
  cases before with
  | nil => exact absurd (List.cons.inj hsplit).1 (h p connective)
  | cons _ before => simp at hsplit

/-- Guarded parts of a group are guarded together with what stands between them. -/
theorem guarded_intercalate {start : List Piece} {p : Path} (connective : Connective)
    (hstart : compiler.Inside p start) {pss : List (List Piece)}
    (hbalanced : ∀ ps ∈ pss, Balanced (compiler.chars ps))
    (hguarded : ∀ ps ∈ pss, ∀ start, compiler.Guarded start ps) :
    compiler.Guarded start (List.intercalate [.separator p connective] pss) := by
  induction pss generalizing start with
  | nil => exact guarded_nil start
  | cons ps pss ih =>
    obtain ⟨hps, hpss⟩ := List.forall_mem_cons.1 hbalanced
    obtain ⟨hps', hpss'⟩ := List.forall_mem_cons.1 hguarded
    cases pss with
    | nil => simpa [List.intercalate] using hps' start
    | cons qs pss =>
      have hpart := hstart.append hps
      have hseparator := hpart.append (balanced_separator p connective)
      rw [List.intercalate_cons_cons]
      refine ((hps' start).append (guarded_separator connective hpart)).append ?_
      rw [← List.append_assoc]
      exact ih hseparator hpss hpss'

/-- Each separator of a layout is inside its group. -/
theorem guarded_layout {n : ResolvedNode}
    (h : ∀ c ∈ n.clauses, Balanced (compiler.chars [.clause c])) (start : List Piece) :
    compiler.Guarded start (compiler.layout n) := by
  induction n generalizing start with
  | clause c => exact guarded_singleton start (by simp)
  | group connective ns p ih =>
    rw [layout]
    split
    case isTrue =>
      have hparts : ∀ ps ∈ compiler.layouts ns, ∀ start, compiler.Guarded start ps := by
        intro ps hps start
        obtain ⟨n, hn, -, rfl⟩ := mem_layouts_iff.1 hps
        exact ih n hn (fun c hc => h c (ResolvedNode.mem_clausesOfList.2 ⟨n, hn, hc⟩)) start
      have hinner := guarded_intercalate connective (inside_opening p start)
        (balanced_of_mem_layouts h) hparts
      exact ((guarded_singleton start (by simp)).append hinner).append
        (guarded_singleton _ (by simp))
    case isFalse => exact guarded_nil start

/-! ### The same parentheses -/

/-- How many parentheses a row of pieces opens, less how many it closes. -/
def rise (compiler : Compiler) : List Piece → Int
  | [] => 0
  | p :: ps => depth none (compiler.chars [p]) + compiler.rise ps

@[simp] theorem rise_append (ps qs : List Piece) :
    compiler.rise (ps ++ qs) = compiler.rise ps + compiler.rise qs := by
  induction ps with
  | nil => simp [rise]
  | cons p ps ih => rw [List.cons_append, rise, ih, rise, Int.add_assoc]

@[simp] theorem rise_opening (p : Path) (ps : List Piece) :
    compiler.rise (.opening p :: ps) = 1 + compiler.rise ps := by
  rw [rise, chars_opening]
  rfl

/-- Each of some pieces ends outside quotes. -/
def Closed (compiler : Compiler) (ps : List Piece) : Prop :=
  ∀ p ∈ ps, openQuote none (compiler.chars [p]) = none

/-- Pieces end outside quotes if the conditions of the clauses among them do. -/
theorem closed_of_clauses {ps : List Piece}
    (h : ∀ c ∈ Piece.clauses ps, Balanced (compiler.chars [.clause c])) : compiler.Closed ps := by
  intro piece hpiece
  cases piece with
  | opening p =>
    rw [chars_opening]
    rfl
  | separator p connective => exact (balanced_separator p connective).quote
  | closing p =>
    rw [chars_closing]
    rfl
  | clause c => exact (h c (List.mem_filterMap.2 ⟨_, hpiece, rfl⟩)).quote

theorem closed_append {ps qs : List Piece} :
    compiler.Closed (ps ++ qs) ↔ compiler.Closed ps ∧ compiler.Closed qs :=
  List.forall_mem_append

/-- Where no piece leaves a quote open, parentheses can be counted piece by piece. -/
theorem depth_chars {ps : List Piece} (h : compiler.Closed ps) :
    depth none (compiler.chars ps) = compiler.rise ps := by
  induction ps with
  | nil => rfl
  | cons p ps ih =>
    obtain ⟨hp, hps⟩ := List.forall_mem_cons.1 h
    rw [chars_cons, depth_append, hp, ih hps, rise]

theorem rise_eq_zero {ps : List Piece} (hclosed : compiler.Closed ps)
    (h : Balanced (compiler.chars ps)) : compiler.rise ps = 0 := by
  rw [← depth_chars hclosed, h.depth_eq]

theorem rise_nonneg {ps qs : List Piece} (hclosed : compiler.Closed (ps ++ qs))
    (h : Balanced (compiler.chars (ps ++ qs))) : 0 ≤ compiler.rise ps := by
  rw [← depth_chars (closed_append.1 hclosed).1]
  exact h.nonneg _ (compiler.chars qs) (chars_append ps qs).symm

/-- Two places with the same parentheses around them are inside the same group. -/
theorem Inside.eq_of_sameParentheses {p q : Path} {ps qs : List Piece} (hp : compiler.Inside p ps)
    (hq : compiler.Inside q (ps ++ qs)) (hclosed : compiler.Closed (ps ++ qs))
    (h : SameParentheses (compiler.chars ps) (compiler.chars qs)) : p = q := by
  obtain ⟨hps, hqs⟩ := closed_append.1 hclosed
  have hlevel : compiler.rise qs = 0 := by
    have heq := h.1
    rw [← chars_append, depth_chars hclosed, depth_chars hps, rise_append] at heq
    omega
  have hbetween {before after : List Piece} (hsplit : before ++ after = qs) :
      0 ≤ compiler.rise before := by
    have hle := h.2 (compiler.chars before) (compiler.chars after) (by rw [← chars_append, hsplit])
    have hbefore : compiler.Closed (ps ++ before) := by
      rw [← hsplit, closed_append] at hqs
      exact closed_append.2 ⟨hps, hqs.1⟩
    rw [← chars_append, depth_chars hbefore, depth_chars hps, rise_append] at hle
    omega
  obtain ⟨outer, inner, hpsplit, hinner⟩ := hp
  obtain ⟨outer', inner', hqsplit, hinner'⟩ := hq
  have hclosedInner : compiler.Closed inner := fun x hx => hps x (by simp [hpsplit, hx])
  have hclosedInner' : compiler.Closed inner' := fun x hx => hclosed x (by simp [hqsplit, hx])
  have hrise := rise_eq_zero hclosedInner hinner
  have hrise' := rise_eq_zero hclosedInner' hinner'
  rcases List.append_eq_append_iff.1 hqsplit with ⟨first, -, hfirst⟩ | ⟨rest, hrest, hbehind⟩
  · -- the parenthesis of `q` would be opened in between and stay open
    have hnonneg := hbetween hfirst.symm
    rw [hfirst, rise_append, rise_opening] at hlevel
    omega
  cases rest with
  | nil =>
    rw [List.nil_append] at hbehind
    rw [← hbehind, rise_opening] at hlevel
    omega
  | cons x rest =>
    rw [List.cons_append] at hbehind
    obtain ⟨rfl, rfl⟩ := List.cons.inj hbehind
    rw [rise_append] at hrise'
    rw [hpsplit] at hrest
    rcases List.append_eq_append_iff.1 hrest with ⟨first, -, hfirst⟩ | ⟨first, -, hfirst⟩
    · cases first with
      | nil => exact Piece.opening.inj (List.cons.inj hfirst).1
      | cons x first =>
        -- the parenthesis of `q` would lie inside that of `p`
        rw [List.cons_append] at hfirst
        obtain ⟨rfl, rfl⟩ := List.cons.inj hfirst
        have hnonneg := rise_nonneg hclosedInner hinner
        rw [rise_append, rise_opening] at hrise
        omega
    · cases first with
      | nil => exact (Piece.opening.inj (List.cons.inj hfirst).1).symm
      | cons x first =>
        -- the parenthesis of `p` would lie inside that of `q`
        rw [List.cons_append] at hfirst
        obtain ⟨rfl, rfl⟩ := List.cons.inj hfirst
        rw [List.append_assoc] at hclosedInner' hinner'
        have hnonneg := rise_nonneg hclosedInner' hinner'
        rw [rise_append, rise_opening] at hrise'
        omega

/-! ### Filters -/

/-- Without overrides, over columns that are balanced, the condition of a filter has a pair of
parentheses around it, and so has the part of every group below its root. Each separator has the
place of its group, and two with the same parentheses around them belong to one group. -/
theorem groups_enclosed (compiler : Compiler) (hempty : compiler.overrides = .empty)
    (hcolumns : ∀ source ∈ compiler.catalog.sources, Balanced source.column.toList)
    (f : Filter) (condition : Fragment) (h : compiler.condition f = .ok (some condition)) :
    Enclosed condition.text.toList ∧
    ∃ r, compiler.resolve f = .ok r ∧
      (∀ connective ns p, compiler.Contributes r.toNode (.group connective ns p) →
        ∃ part before after, compiler.nodeCondition (.group connective ns p) = .ok (some part) ∧
          condition = before ++ part ++ after ∧ Enclosed part.text.toList) ∧
      condition = compiler.assemble (compiler.layout r.toNode) ∧
      (∀ p connective, .separator p connective ∈ compiler.layout r.toNode →
        ∃ name ns, f.toNode.at? p.indexes = some (.group name ns) ∧
          Connective.ofText? name = some connective) ∧
      ∀ before p connective between q connective' after,
        compiler.layout r.toNode = before ++ .separator p connective :: between ++
          .separator q connective' :: after →
        SameParentheses (compiler.chars before)
          (compiler.chars (.separator p connective :: between)) → p = q := by
  obtain ⟨r, hr, -⟩ := bind_eq_ok_iff.1 h
  have hnode : compiler.nodeCondition r.toNode = .ok (some condition) := by
    rw [← condition_eq_nodeCondition hr, h]
  have hassemble : compiler.assemble (compiler.layout r.toNode) = condition :=
    assemble_layout r.toNode hnode
  have hclauses : ∀ c ∈ r.clauses, Balanced (compiler.chars [.clause c]) := by
    intro c hc
    obtain ⟨g, hg⟩ := clauseCondition_of_nodeCondition_eq_ok r.toNode hnode c hc
    have hbuilt : g.Built fun s => Balanced s.toList :=
      built_of_mem_clauses hempty (by decide) hcolumns hr c hc g hg
    simpa [chars, pieceFragment, clauseFragment_eq hg] using hbuilt.balanced fun _ => id
  have hgroup : ∀ connective ns p, compiler.Contributes r.toNode (.group connective ns p) →
      Enclosed (compiler.chars (compiler.layout (.group connective ns p))) :=
    fun connective ns p hpart => enclosed_layout hpart.restricts_right fun c hc =>
      hclauses c (hpart.mem_clauses c hc)
  have hroot := hgroup _ _ _ (.self (restricts_of_eq_some hnode))
  refine ⟨?_, r, hr, fun connective ns p hpart => ?_, hassemble.symm, ?_, ?_⟩
  · rw [← hassemble]
    exact hroot
  · obtain ⟨part, hpartCondition⟩ := hpart.exists_condition hnode
    obtain ⟨before, after, hsplit⟩ := hpart.exists_layout
    have hpartLayout := assemble_layout _ hpartCondition
    refine ⟨part, compiler.assemble before, compiler.assemble after, hpartCondition, ?_, ?_⟩
    · rw [← hassemble, hsplit, assemble_append, assemble_append, hpartLayout]
    · rw [← hpartLayout]
      exact hgroup connective ns p hpart
  · intro p connective hmem
    obtain ⟨is, name, ns, hpath, hat, hname⟩ :=
      at?_of_separator_mem_layout f.toNode (resolve_toNode_eq_ok hr) hmem
    rw [Path.indexes_root, List.nil_append] at hpath
    exact ⟨name, ns, hpath ▸ hat, hname⟩
  · intro before p connective between q connective' after hsplit hsame
    have hguarded := guarded_layout (n := r.toNode) hclauses []
    have hp := hguarded before p connective (between ++ .separator q connective' :: after)
      (by rw [hsplit, List.append_assoc, List.cons_append])
    have hq := hguarded _ q connective' after hsplit
    refine Inside.eq_of_sameParentheses hp hq ?_ hsame
    have hclosed : compiler.Closed (compiler.layout r.toNode) :=
      closed_of_clauses fun c hc => hclauses c (mem_clauses_of_mem_layout hc)
    rw [hsplit, closed_append] at hclosed
    exact hclosed.1

/-- Quoted parentheses in a column, an empty group and a condition without parentheses of its own
leave a pair around both groups. -/
theorem groups_enclosed_beside_quoted_parenthesis :
    let flavor : DataSource :=
      { displayName := "Flavor", column := "coalesce(flavor, ')')", types := [.string, .nullable] }
    let compiler : Compiler := { sample with catalog := ⟨[flavor]⟩ }
    let f : Filter := ⟨some "or", [.clause ⟨"Flavor", "is", .string "Mint"⟩,
      .group (some "and") [.clause ⟨"Flavor", "is set", .bool true⟩, .group none []]]⟩
    compiler.overrides = .empty ∧
      (∀ source ∈ compiler.catalog.sources, Balanced source.column.toList) ∧
      ∃ condition, compiler.condition f = .ok (some condition) ∧
        condition.text =
          "((coalesce(flavor, ')') = ?)\n OR \n(coalesce(flavor, ')') IS NOT NULL))" ∧
        Enclosed condition.text.toList := by
  intro flavor compiler f
  have hcolumns : ∀ source ∈ compiler.catalog.sources, Balanced source.column.toList := by
    decide +zetaReduce
  have htext : (compiler.condition f).toOption.map (·.map Fragment.text) = some (some
      "((coalesce(flavor, ')') = ?)\n OR \n(coalesce(flavor, ')') IS NOT NULL))") := by
    decide +kernel +zetaReduce
  obtain ⟨part, hpart, hsome⟩ := exists_of_map_toOption_eq_some htext
  obtain ⟨condition, rfl, htext⟩ := Option.map_eq_some_iff.1 hsome
  have henclosed := (groups_enclosed compiler rfl hcolumns f condition hpart).1
  exact ⟨rfl, hcolumns, condition, hpart, htext, henclosed⟩

end Compiler

end FilterSql
