import FilterSql.Proofs.Condition.Builders
import FilterSql.Proofs.Layout.Basic

/-!
# What conditions are built from

Without overrides a condition is put together from the columns of the catalog, a few words of SQL
and placeholders, by writing one after the other and by pairs of parentheses. So whatever holds of
these texts and is kept by both holds of all conditions and queries.

## Main definitions

* `FilterSql.Fragment.Built`: the fragments that are put together from texts with a property.
* `FilterSql.Condition.words`: the words of SQL of the builders.

## Main results

* `FilterSql.Condition.built_of_build`: what a builder gives is built from the column and the words.
* `FilterSql.Compiler.built_of_condition`: so are the conditions of filters without overrides.
-/

namespace FilterSql

/-! ### Fragments put together from texts -/

namespace Fragment

/-- A fragment that is put together from texts with a property and from placeholders. -/
inductive Built (P : String → Prop) : Fragment → Prop
  | empty : Built P .empty
  | sql {text : String} (h : P text) : Built P (.sql text)
  | placeholder {p : Param} (h : ∀ type, p.cast? = some type → P ("::" ++ type)) :
      Built P (.placeholder p)
  | append {f g : Fragment} (hf : Built P f) (hg : Built P g) : Built P (f ++ g)
  | parenthesize {f : Fragment} (h : Built P f) : Built P f.parenthesize

/-- The text of a placeholder is a question mark with a cast behind it, if it has one. -/
theorem exists_text_placeholder {P : String → Prop} (hempty : P "") {p : Param}
    (h : ∀ type, p.cast? = some type → P ("::" ++ type)) :
    ∃ cast, P cast ∧ (placeholder p).text = "?" ++ cast := by
  rw [text_placeholder]
  cases hcast : p.cast? with
  | none => exact ⟨"", hempty, rfl⟩
  | some type => exact ⟨"::" ++ type, h type hcast, rfl⟩

namespace Built

variable {P : String → Prop} {f : Fragment}

theorem push (hf : Built P f) {text : String} (h : P text) : Built P (f.push text) :=
  hf.append (.sql h)

theorem join {separator : String} (hseparator : P separator) {fs : List Fragment}
    (h : ∀ f ∈ fs, Built P f) : Built P (Fragment.join separator fs) := by
  induction fs with
  | nil => exact .empty
  | cons f fs ih =>
    obtain ⟨hf, hfs⟩ := List.forall_mem_cons.1 h
    cases fs with
    | nil => exact hf
    | cons g gs =>
      rw [join_cons_cons]
      exact (hf.append (.sql hseparator)).append (ih hfs)

theorem parenthesizedList (hcomma : P ",") {ps : List Param} (h : ∀ p ∈ ps, p.cast? = none) :
    Built P (separated "," "" "" ps).parenthesize := by
  refine .parenthesize (join hcomma fun g hg => ?_)
  obtain ⟨p, hp, rfl⟩ := List.mem_map.1 hg
  rw [wrap_empty]
  exact .placeholder fun type htype => by simp [h p hp] at htype

end Built

/-- A fragment that is built behind a parenthesis that is still open. -/
def Opened (P : String → Prop) (g : Fragment) : Prop :=
  ∃ f, Built P f ∧ Fragment.sql "(" ++ f = g

namespace Opened

variable {P : String → Prop} {g : Fragment}

theorem paren : Opened P (.sql "(") :=
  ⟨.empty, .empty, append_empty _⟩

theorem append (h : Opened P g) {f : Fragment} (hf : Built P f) : Opened P (g ++ f) := by
  obtain ⟨f', hf', rfl⟩ := h
  exact ⟨f' ++ f, hf'.append hf, (append_assoc _ _ _).symm⟩

theorem push (h : Opened P g) {text : String} (htext : P text) : Opened P (g.push text) :=
  h.append (.sql htext)

theorem bind (h : Opened P g) {p : Param} (hp : ∀ type, p.cast? = some type → P ("::" ++ type)) :
    Opened P (g.bind p) :=
  h.append (.placeholder hp)

/-- The closing parenthesis completes the pair. -/
theorem close (h : Opened P g) : Built P (g.push ")") := by
  obtain ⟨f, hf, rfl⟩ := h
  have hclose : (Fragment.sql "(" ++ f).push ")" = f.parenthesize :=
    (parenthesize_eq_append f).symm
  rw [hclose]
  exact hf.parenthesize

end Opened

end Fragment

/-! ### The builders -/

namespace Condition

open Fragment

variable {P : String → Prop} {column : String} {op : Operator} {v : Value} {f : Fragment}

/-- The words of SQL of the builders, parentheses aside. -/
def words : List String :=
  [" IS NOT NULL", " IS NULL", "NOT ", " ", ">=", "<=", ">", "<", "=", "<>", "~",
    " IS DISTINCT FROM ", " IN ", " NOT IN ", ",", " ILIKE '%' || ", " || '%'", " ILIKE ", " OR ",
    " BETWEEN ", " NOT BETWEEN ", " AND ", "::timestamp"]

/-- The signs of operators are words. -/
theorem mem_words_of_sign {sign : String} (h : op.sign = .ok sign) : sign ∈ words := by
  rw [Operator.sign, Operator.signOf] at h
  repeat' split at h
  all_goals cases h <;> simp [words]

section Words

variable (hwords : ∀ s ∈ words, P s)

include hwords

/-- A point in time is the only kind of value with a cast that is bound to a condition. -/
private theorem cast_of_words {p : Param} (h : p.cast? = none ∨ p.cast? = some "timestamp")
    (type : String) (htype : p.cast? = some type) : P ("::" ++ type) := by
  rcases h with h | h
  · simp [h] at htype
  · obtain rfl : "timestamp" = type := by simpa [h] using htype
    exact hwords _ (by simp [words])

variable (hcolumn : P column)

include hcolumn

/-- What a comparison has before its closing parenthesis. -/
private theorem opened_comparison {sign : String} (hsign : sign ∈ words) {p : Param}
    (hp : p.cast? = none ∨ p.cast? = some "timestamp") :
    Opened P (sql "(" |>.push column |>.push " " |>.push sign |>.push " " |>.bind p) := by
  have hspace : P " " := hwords _ (by simp [words])
  have hstart : Opened P (sql "(" |>.push column |>.push " " |>.push sign |>.push " ") :=
    ((((Opened.paren).push hcolumn).push hspace).push (hwords sign hsign)).push hspace
  exact hstart.bind (cast_of_words hwords hp)

private theorem built_compare {sign : String} (hsign : sign ∈ words) {p : Param}
    (hp : p.cast? = none ∨ p.cast? = some "timestamp") : Built P (compare column sign p) :=
  (opened_comparison hwords hcolumn hsign hp).close

private theorem built_ofNullable (h : ofNullable column v = .ok f) : Built P f := by
  obtain ⟨set, -, rfl⟩ := ofNullable_eq_ok_iff.1 h
  refine (Built.sql hcolumn).push (hwords _ ?_)
  cases set <;> simp [words]

private theorem built_ofBool (h : ofBool column v = .ok f) : Built P f := by
  obtain ⟨b, -, rfl⟩ := ofBool_eq_ok_iff.1 h
  cases b with
  | true => exact (Opened.paren.push hcolumn).close
  | false =>
    have hnot : Opened P (sql "(NOT ") := Opened.paren.push (hwords "NOT " (by simp [words]))
    exact (hnot.push hcolumn).close

private theorem built_ofNumeric (h : ofNumeric column op v = .ok f) : Built P f := by
  obtain ⟨sign, hsign, ⟨n, -, rfl⟩ | ⟨x, -, rfl⟩⟩ := ofNumeric_eq_ok_iff.1 h
  · exact built_compare hwords hcolumn (mem_words_of_sign hsign) (.inl rfl)
  · exact built_compare hwords hcolumn (mem_words_of_sign hsign) (.inl rfl)

private theorem built_ofAbsoluteDate (h : ofAbsoluteDate column op v = .ok f) : Built P f := by
  obtain ⟨sign, t, hsign, -, rfl⟩ := ofAbsoluteDate_eq_ok_iff.1 h
  exact built_compare hwords hcolumn (mem_words_of_sign hsign) (.inr rfl)

private theorem built_ofCollection (h : ofCollection column op v = .ok f) : Built P f := by
  have hstart : Opened P (sql "(" |>.push column) := Opened.paren.push hcolumn
  rcases ofCollection_eq_ok_iff.1 h with ⟨-, rfl⟩ | ⟨id, ids, -, rfl⟩
  · split
    · have hdistinct : P " IS DISTINCT FROM " := hwords _ (by simp [words])
      exact ((hstart.push hdistinct).bind (cast_of_words hwords (.inl rfl))).close
    · -- the list of a single null is written out, parentheses included
      have hin : P " IN " := hwords _ (by simp [words])
      have hnull : Built P (placeholder .null).parenthesize :=
        .parenthesize (.placeholder (cast_of_words hwords (.inl rfl)))
      have hlist : (sql "(" |>.push column |>.push " IN (" |>.bind .null |>.push ")") =
          (sql "(" |>.push column |>.push " IN ") ++ (placeholder .null).parenthesize := by
        have hopen (g : Fragment) : g.push " IN (" = (g.push " IN ").push "(" :=
          push_append g " IN " "("
        rw [hopen, parenthesize_eq_append]
        simp [push, Fragment.bind, append_assoc]
      rw [hlist]
      exact ((hstart.push hin).append hnull).close
  · have hlist : Built P (separated "," "" "" ((id :: ids).map paramOfId)).parenthesize := by
      refine .parenthesizedList (hwords _ (by simp [words])) fun p hp => ?_
      obtain ⟨id, -, rfl⟩ := List.mem_map.1 hp
      cases id <;> rfl
    have hin : P (if op.negative = true then " NOT IN " else " IN ") := by
      apply hwords
      split <;> simp [words]
    exact ((hstart.push hin).append hlist).close

private theorem built_ofString (h : ofString column op v = .ok f) : Built P f := by
  have hstart : Opened P (sql "(" |>.push column) := Opened.paren.push hcolumn
  have hend : P " || '%'" := hwords _ (by simp [words])
  obtain ⟨s, -, ⟨-, rfl⟩ | ⟨-, rfl⟩ | ⟨-, -, sign, hsign, rfl⟩⟩ := ofString_eq_ok_iff.1 h
  · have hlike : P " ILIKE '%' || " := hwords _ (by simp [words])
    exact (((hstart.push hlike).bind (cast_of_words hwords (.inl rfl))).push hend).close
  · have hlike : P " ILIKE " := hwords _ (by simp [words])
    exact (((hstart.push hlike).bind (cast_of_words hwords (.inl rfl))).push hend).close
  · have hcomparison := opened_comparison hwords hcolumn (mem_words_of_sign hsign)
      (p := .text s) (.inl rfl)
    have hor : P " OR " := hwords _ (by simp [words])
    have hnull : P " IS NULL" := hwords _ (by simp [words])
    split
    · exact (((hcomparison.push hor).push hcolumn).push hnull).close
    · exact hcomparison.close

private theorem built_ofWordCount (h : ofWordCount column op v = .ok f) : Built P f := by
  have htilde : "~" ∈ words := by simp [words]
  obtain ⟨n, -, ⟨-, rfl⟩ | ⟨-, -, rfl⟩⟩ := ofWordCount_eq_ok_iff.1 h
  · exact built_compare hwords hcolumn htilde (.inl rfl)
  · split
    · have hnull : P " IS NULL" := hwords _ (by simp [words])
      have hclose (g : Fragment) : g.push " IS NULL)" = (g.push " IS NULL").push ")" :=
        push_append g " IS NULL" ")"
      rw [hclose]
      exact ((Opened.paren.push hcolumn).push hnull).close
    · exact built_compare hwords hcolumn htilde (.inl rfl)

private theorem built_ofRelativeDate {now : Timestamp}
    (h : ofRelativeDate column op v now = .ok f) : Built P f := by
  obtain ⟨d, first, last, -, -, rfl⟩ := ofRelativeDate_eq_ok_iff.1 h
  have hbetween : P (if op.negative = true then " NOT BETWEEN " else " BETWEEN ") := by
    apply hwords
    split <;> simp [words]
  have hand : P " AND " := hwords _ (by simp [words])
  have hfirst := ((Opened.paren.push hcolumn).push hbetween).bind
    (p := .timestamp first) (cast_of_words hwords (.inr rfl))
  exact ((hfirst.push hand).bind (cast_of_words hwords (.inr rfl))).close

/-- A condition is built from the column and the words of the builders. -/
theorem built_of_build {now : Timestamp} (h : build column op v now = .ok f) : Built P f := by
  rw [build] at h
  cases htype : op.type with
  | nullable =>
    rw [htype] at h
    exact built_ofNullable hwords hcolumn h
  | bool =>
    rw [htype] at h
    exact built_ofBool hwords hcolumn h
  | numeric =>
    rw [htype] at h
    exact built_ofNumeric hwords hcolumn h
  | string =>
    rw [htype] at h
    exact built_ofString hwords hcolumn h
  | stringLength =>
    rw [htype] at h
    exact built_ofWordCount hwords hcolumn h
  | collection =>
    rw [htype] at h
    exact built_ofCollection hwords hcolumn h
  | singleChoice => simp [htype] at h
  | relativeDate =>
    rw [htype] at h
    exact built_ofRelativeDate hwords hcolumn h
  | absoluteDate =>
    rw [htype] at h
    exact built_ofAbsoluteDate hwords hcolumn h

end Words

end Condition

/-! ### Conditions of nodes -/

namespace Compiler

variable {compiler : Compiler} {P : String → Prop}

mutual

/-- A condition is built from the separators and from what those of the clauses are built from. -/
theorem built_of_nodeCondition (hseparators : ∀ connective : Connective, P connective.separator) :
    (n : ResolvedNode) → (∀ c ∈ n.clauses, ∀ g, compiler.clauseCondition c = .ok g → g.Built P) →
    ∀ {f}, compiler.nodeCondition n = .ok (some f) → f.Built P
  | .clause c, hclauses, f, h => by
    obtain ⟨g, hg, hgf⟩ := nodeCondition_clause_eq_ok_iff.1 h
    obtain rfl : g = f := Option.some.inj hgf
    exact hclauses c (by simp [ResolvedNode.clauses]) g hg
  | .group connective ns p, hclauses, f, h => by
    obtain ⟨parts, hparts, hjoin⟩ := nodeCondition_group_eq_ok_iff.1 h
    obtain ⟨-, -, rfl⟩ := joinConditions_eq_some_iff.1 hjoin
    refine .parenthesize (.join (hseparators connective) fun g hg => ?_)
    exact built_of_nodeConditions hseparators ns hclauses hparts g (by simpa using hg)

theorem built_of_nodeConditions (hseparators : ∀ connective : Connective, P connective.separator) :
    (ns : List ResolvedNode) →
    (∀ c ∈ ResolvedNode.clausesOfList ns, ∀ g, compiler.clauseCondition c = .ok g → g.Built P) →
    ∀ {parts}, compiler.nodeConditions ns = .ok parts → ∀ f, some f ∈ parts → f.Built P
  | [], _, parts, h => by
    cases h
    simp
  | n :: ns, hclauses, parts, h => by
    obtain ⟨part, parts', hn, hns, rfl⟩ := nodeConditions_cons_eq_ok_iff.1 h
    intro f hf
    rcases List.mem_cons.1 hf with rfl | hf
    · exact built_of_nodeCondition hseparators n
        (fun c hc => hclauses c (List.mem_append_left _ hc)) hn
    · exact built_of_nodeConditions hseparators ns
        (fun c hc => hclauses c (List.mem_append_right _ hc)) hns f hf

end

/-- Without overrides the condition of a clause is built from columns and words. -/
theorem built_of_mem_clauses (hempty : compiler.overrides = .empty)
    (hwords : ∀ s ∈ Condition.words, P s)
    (hcolumns : ∀ source ∈ compiler.catalog.sources, P source.column) {f : Filter}
    {r : ResolvedFilter} (hr : compiler.resolve f = .ok r) :
    ∀ c ∈ r.clauses, ∀ g, compiler.clauseCondition c = .ok g → g.Built P := by
  intro c hc g hg
  have hresolve := Node.resolve_of_mem_clauses f.toNode (resolve_toNode_eq_ok hr) c hc
  have hsource := Catalog.mem_of_resolve (Clause.resolve_eq_ok_iff.1 hresolve).1
  rw [clauseCondition_eq_defaultCondition hempty, Environment.defaultCondition] at hg
  split at hg
  case h_1 g' hbuild =>
    cases hg
    exact Condition.built_of_build hwords (hcolumns c.source hsource) hbuild
  case h_2 => cases hg

/-- Without overrides the condition of a filter is built from columns, words and separators. -/
theorem built_of_condition (hempty : compiler.overrides = .empty)
    (hwords : ∀ s ∈ Condition.words, P s)
    (hseparators : ∀ connective : Connective, P connective.separator)
    (hcolumns : ∀ source ∈ compiler.catalog.sources, P source.column) {f : Filter}
    {condition : Fragment} (h : compiler.condition f = .ok (some condition)) :
    condition.Built P := by
  obtain ⟨r, hr, -⟩ := bind_eq_ok_iff.1 h
  rw [condition_eq_nodeCondition hr] at h
  exact built_of_nodeCondition hseparators r.toNode
    (built_of_mem_clauses hempty hwords hcolumns hr) h

end Compiler

end FilterSql
