import FilterSql.Proofs.Resolution.Basic
import FilterSql.Proofs.Sql.Nesting

/-!
# The grammar of table names

The name of a table goes into a query as it is, so what counts as a name decides what can stand
there. The reader of names takes one character after the other; what it accepts from each of its
states is said here without it, part by part, and from the start on that is the grammar of names.
Outside the double quotes of a name, which it closes, nothing but letters, digits, underscores and
points can stand.

## Main definitions

* `FilterSql.Identifier.PartText`, `FilterSql.Identifier.NameText`: the grammar of names.
* `FilterSql.Identifier.State.Goes`: the steps of the reader, one constructor for each.
* `FilterSql.Identifier.State.quote`: the quote that is open where the reader stands.
* `FilterSql.Identifier.Continues`: what a name can go on with from a state of the reader on.
* `FilterSql.Identifier.Contained`: texts that are harmless outside the quotes they close.

## Main results

* `FilterSql.Identifier.accepts_iff_continues`: the reader accepts what the grammar has.
* `FilterSql.Identifier.openQuote_of_accepts`: a name closes the quotes it opens.
* `FilterSql.Identifier.name_exact`: names of tables, and the queries over them.
-/

namespace FilterSql.Identifier

open Text Template

/-! ### The grammar -/

/-- A part of a name: a letter or an underscore with letters, digits and underscores behind it, or
one or more characters between double quotes, none of which is a double quote. -/
inductive PartText : List Char → Prop
  | plain {first : Char} {others : List Char} (hfirst : first.isAlpha = true ∨ first = '_')
      (hothers : ∀ c ∈ others, c.isAlphanum = true ∨ c = '_') : PartText (first :: others)
  | quoted {inner : List Char} (hnonempty : inner ≠ []) (hinner : '"' ∉ inner) :
      PartText ('"' :: (inner ++ ['"']))

/-- A name: one part or several, with a point between two. -/
inductive NameText : List Char → Prop
  | last {part : List Char} (hpart : PartText part) : NameText part
  | more {part rest : List Char} (hpart : PartText part) (hrest : NameText rest) :
      NameText (part ++ '.' :: rest)

/-- What can stand behind a part of a name: nothing, or a point and a name. -/
inductive Follows : List Char → Prop
  | nothing : Follows []
  | point {rest : List Char} (hrest : NameText rest) : Follows ('.' :: rest)

/-- A name is a part and what can stand behind it. -/
theorem nameText_iff {cs : List Char} :
    NameText cs ↔ ∃ part rest, cs = part ++ rest ∧ PartText part ∧ Follows rest := by
  constructor
  · rintro (hpart | ⟨hpart, hrest⟩)
    · exact ⟨cs, [], (List.append_nil cs).symm, hpart, .nothing⟩
    · exact ⟨_, _, rfl, hpart, .point hrest⟩
  · rintro ⟨part, _, rfl, hpart, ⟨⟩ | ⟨hrest⟩⟩
    · rw [List.append_nil]
      exact .last hpart
    · exact .more hpart hrest

/-! ### Characters of names -/

theorem isStart_iff {c : Char} : isStart c = true ↔ c.isAlpha = true ∨ c = '_' := by
  have hletter : c.isAlpha = true ↔ c.isUpper = true ∨ c.isLower = true := Bool.or_eq_true_iff
  have hupper : c.isUpper = true ↔ 'A' ≤ c ∧ c ≤ 'Z' := decide_eq_true_iff
  have hlower : c.isLower = (decide ('a' ≤ c) && decide (c ≤ 'z')) := rfl
  simp only [isStart, hletter, hupper, hlower, Bool.or_eq_true, Bool.and_eq_true,
    decide_eq_true_eq]
  rw [or_comm (a := 'A' ≤ c ∧ c ≤ 'Z')]

theorem isInner_iff {c : Char} : isInner c = true ↔ c.isAlphanum = true ∨ c = '_' := by
  have hdigit : isDigit c = c.isDigit := rfl
  rw [isInner, Bool.or_eq_true, isStart_iff, hdigit, Char.isAlphanum, Bool.or_eq_true,
    or_right_comm]

theorem isInner_of_isStart {c : Char} (h : isStart c = true) : isInner c = true := by
  rw [isInner, h, Bool.true_or]

theorem isQuote_eq_false_of_isInner {c : Char} (h : isInner c = true) : isQuote c = false := by
  rw [isQuote, ← Bool.not_eq_true, Bool.or_eq_true, decide_eq_true_eq, decide_eq_true_eq]
  rintro (rfl | rfl) <;> revert h <;> decide

/-! ### Steps of the reader -/

/-- A character takes the reader from one state to another. -/
inductive State.Goes : State → Char → State → Prop
  | first {c : Char} (h : isStart c = true) : Goes start c plain
  | opening : Goes start '"' (quoted false)
  | inner {c : Char} (h : isInner c = true) : Goes plain c plain
  | point : Goes plain '.' start
  | within {nonempty : Bool} {c : Char} (h : c ≠ '"') : Goes (quoted nonempty) c (quoted true)
  | closing : Goes (quoted true) '"' closed
  | pointBehind : Goes closed '.' start

/-- The reader goes on with a character just where there is a step with it. -/
theorem State.step_eq_some_iff {state next : State} {c : Char} :
    state.step c = some next ↔ Goes state c next := by
  constructor
  · fun_cases step state c with
    | case1 _ hstart =>
      rintro ⟨⟩
      exact .first hstart
    | case2 =>
      rintro ⟨⟩
      exact .opening
    | case4 _ hinner =>
      rintro ⟨⟩
      exact .inner hinner
    | case5 =>
      rintro ⟨⟩
      exact .point
    | case7 =>
      rintro ⟨⟩
      exact .closing
    | case9 _ _ hc =>
      rintro ⟨⟩
      exact .within hc
    | case10 =>
      rintro ⟨⟩
      exact .pointBehind
    -- no name goes on here
    | case3 | case6 | case8 | case11 => nofun
  · rintro (h | _ | h | _ | h | _ | _)
    · exact if_pos h
    · rfl
    · exact if_pos h
    · rfl
    · exact if_neg h
    · rfl
    · rfl

/-- A name is read further one step after the other. -/
theorem accepts_cons {state : State} {c : Char} {cs : List Char} :
    accepts state (c :: cs) = true ↔ ∃ next, state.Goes c next ∧ accepts next cs = true := by
  simp only [← State.step_eq_some_iff]
  rw [accepts]
  cases state.step c with
  | none => exact ⟨nofun, nofun⟩
  | some next => exact ⟨fun h => ⟨next, rfl, h⟩, fun ⟨_, hnext, h⟩ => Option.some.inj hnext ▸ h⟩

/-! ### What is accepted -/

/-- What a name can go on with from a state of the reader on. -/
def Continues : State → List Char → Prop
  | .start, cs => NameText cs
  | .plain, cs => ∃ others rest, cs = others ++ rest ∧ (∀ c ∈ others, isInner c = true) ∧
      Follows rest
  | .quoted nonempty, cs => ∃ inner rest, cs = inner ++ '"' :: rest ∧ '"' ∉ inner ∧
      (nonempty = false → inner ≠ []) ∧ Follows rest
  | .closed, cs => Follows cs

theorem not_nameText_nil : ¬ NameText [] := by
  intro h
  obtain ⟨part, rest, hcs, hpart, -⟩ := nameText_iff.1 h
  obtain ⟨rfl, -⟩ := List.append_eq_nil_iff.1 hcs.symm
  cases hpart

theorem continues_nil {state : State} : Continues state [] ↔ state.isFinal = true := by
  cases state with
  | start => exact ⟨fun h => absurd h not_nameText_nil, nofun⟩
  | plain => exact ⟨fun _ => rfl, fun _ => ⟨[], [], rfl, nofun, .nothing⟩⟩
  | quoted nonempty =>
    constructor
    · rintro ⟨inner, rest, hcs, -⟩
      simp at hcs
    · nofun
  | closed => exact ⟨fun _ => rfl, fun _ => .nothing⟩

theorem nameText_cons {c : Char} {cs : List Char} :
    NameText (c :: cs) ↔ ∃ next, State.start.Goes c next ∧ Continues next cs := by
  rw [nameText_iff]
  constructor
  · rintro ⟨part, rest, hcs, ⟨hfirst, hothers⟩ | ⟨hnonempty, hinner⟩, hrest⟩
    · obtain ⟨rfl, rfl⟩ := List.cons.inj hcs
      exact ⟨.plain, .first (isStart_iff.2 hfirst), _, rest, rfl,
        fun d hd => isInner_iff.2 (hothers d hd), hrest⟩
    · obtain ⟨rfl, rfl⟩ := List.cons.inj hcs
      exact ⟨.quoted false, .opening, _, rest, by simp, hinner, fun _ => hnonempty, hrest⟩
  · rintro ⟨next, hnext, hcs⟩
    cases hnext with
    | first h =>
      obtain ⟨others, rest, rfl, hothers, hrest⟩ := hcs
      exact ⟨c :: others, rest, rfl, .plain (isStart_iff.1 h)
        fun d hd => isInner_iff.1 (hothers d hd), hrest⟩
    | opening =>
      obtain ⟨inner, rest, rfl, hinner, hnonempty, hrest⟩ := hcs
      exact ⟨'"' :: (inner ++ ['"']), rest, by simp, .quoted (hnonempty rfl) hinner, hrest⟩

theorem follows_cons {c : Char} {cs : List Char} :
    Follows (c :: cs) ↔ c = '.' ∧ NameText cs := by
  constructor
  · rintro (_ | hrest)
    exact ⟨rfl, hrest⟩
  · rintro ⟨rfl, hrest⟩
    exact .point hrest

/-- What a name can go on with is a step of the reader and what it can go on with behind that. -/
theorem continues_cons {state : State} {c : Char} {cs : List Char} :
    Continues state (c :: cs) ↔ ∃ next, state.Goes c next ∧ Continues next cs := by
  cases state with
  | start => exact nameText_cons
  | plain =>
    constructor
    · rintro ⟨_ | ⟨d, others⟩, rest, hcs, hothers, hrest⟩
      · obtain rfl := hcs
        obtain ⟨rfl, hname⟩ := follows_cons.1 hrest
        exact ⟨.start, .point, hname⟩
      · obtain ⟨rfl, rfl⟩ := List.cons.inj hcs
        obtain ⟨hc, hothers⟩ := List.forall_mem_cons.1 hothers
        exact ⟨.plain, .inner hc, others, rest, rfl, hothers, hrest⟩
    · rintro ⟨next, hnext, hcs⟩
      cases hnext with
      | inner h =>
        obtain ⟨others, rest, rfl, hothers, hrest⟩ := hcs
        exact ⟨c :: others, rest, rfl, List.forall_mem_cons.2 ⟨h, hothers⟩, hrest⟩
      | point => exact ⟨[], '.' :: cs, rfl, nofun, .point hcs⟩
  | quoted nonempty =>
    constructor
    · rintro ⟨_ | ⟨d, inner⟩, rest, hcs, hinner, hnonempty, hrest⟩
      · obtain ⟨rfl, rfl⟩ := List.cons.inj hcs
        cases nonempty with
        | true => exact ⟨.closed, .closing, hrest⟩
        | false => exact absurd rfl (hnonempty rfl)
      · obtain ⟨rfl, rfl⟩ := List.cons.inj hcs
        obtain ⟨hc, hinner⟩ := not_or.1 (mt List.mem_cons.2 hinner)
        exact ⟨.quoted true, .within (Ne.symm hc), inner, rest, rfl, hinner, nofun, hrest⟩
    · rintro ⟨next, hnext, hcs⟩
      cases hnext with
      | within h =>
        obtain ⟨inner, rest, rfl, hinner, -, hrest⟩ := hcs
        exact ⟨c :: inner, rest, rfl, List.not_mem_cons_of_ne_of_not_mem (Ne.symm h) hinner,
          fun _ => List.cons_ne_nil c inner, hrest⟩
      | closing => exact ⟨[], cs, rfl, List.not_mem_nil, nofun, hcs⟩
  | closed =>
    rw [Continues, follows_cons]
    constructor
    · rintro ⟨rfl, hname⟩
      exact ⟨.start, .pointBehind, hname⟩
    · rintro ⟨next, hnext, hname⟩
      cases hnext
      exact ⟨rfl, hname⟩

/-- From each of its states on, the reader accepts what a name can go on with there. -/
theorem accepts_iff_continues {state : State} {cs : List Char} :
    accepts state cs = true ↔ Continues state cs := by
  induction cs generalizing state with
  | nil => rw [accepts, continues_nil]
  | cons c cs ih =>
    rw [accepts_cons, continues_cons]
    exact exists_congr fun next => and_congr_right fun _ => ih

theorem isValid_iff_nameText {cs : List Char} : isValid cs = true ↔ NameText cs :=
  accepts_iff_continues

/-! ### Quotes -/

/-- The quote that is open where a reader stands. -/
def State.quote : State → Option Char
  | quoted _ => some '"'
  | _ => none

/-- One more character of a name opens or closes a quote as the scan of SQL does. -/
theorem quoteAfter_of_goes {state next : State} {c : Char} (h : state.Goes c next) :
    quoteAfter state.quote c = next.quote := by
  cases h with
  | first h =>
    have hc := isQuote_eq_false_of_isInner (isInner_of_isStart h)
    simp [State.quote, quoteAfter, hc]
  | opening => rfl
  | inner h =>
    have hc := isQuote_eq_false_of_isInner h
    simp [State.quote, quoteAfter, hc]
  | point => rfl
  | within h => simp [State.quote, quoteAfter, h]
  | closing => rfl
  | pointBehind => rfl

/-- The rest of a name closes the quote that is open where a reader stands. -/
theorem openQuote_of_accepts {state : State} {cs : List Char} (h : accepts state cs = true) :
    openQuote state.quote cs = none := by
  induction cs generalizing state with
  | nil =>
    cases state with
    | plain => rfl
    | closed => rfl
    | start => cases h
    | quoted nonempty => cases h
  | cons c cs ih =>
    obtain ⟨next, hnext, hcs⟩ := accepts_cons.1 h
    rw [openQuote_cons, quoteAfter_of_goes hnext]
    exact ih hcs

/-- Outside quotes a name goes on with a letter, a digit, an underscore or a point, or a double
quote begins. -/
theorem plain_of_goes {state next : State} {c : Char} (h : state.Goes c next)
    (hquote : state.quote = none) : c.isAlphanum = true ∨ c ∈ ['_', '.', '"'] := by
  have hplain {d : Char} (hd : isInner d = true) : d.isAlphanum = true ∨ d ∈ ['_', '.', '"'] :=
    (isInner_iff.1 hd).imp_right (by rintro rfl; exact List.mem_cons_self)
  cases h with
  | first h => exact hplain (isInner_of_isStart h)
  | inner h => exact hplain h
  | opening => exact .inr (by decide)
  | point => exact .inr (by decide)
  | pointBehind => exact .inr (by decide)
  | within => cases hquote
  | closing => cases hquote

theorem plain_of_accepts {state : State} {before after : List Char} {c : Char}
    (h : accepts state (before ++ c :: after) = true)
    (hquote : openQuote state.quote before = none) :
    c.isAlphanum = true ∨ c ∈ ['_', '.', '"'] := by
  induction before generalizing state with
  | nil =>
    obtain ⟨next, hnext, -⟩ := accepts_cons.1 h
    exact plain_of_goes hnext hquote
  | cons d before ih =>
    obtain ⟨next, hnext, hcs⟩ := accepts_cons.1 h
    rw [openQuote_cons, quoteAfter_of_goes hnext] at hquote
    exact ih hcs hquote

/-- Text that closes the quotes it opens, which are double quotes, and has only letters, digits,
underscores and points outside of them. -/
structure Contained (cs : List Char) : Prop where
  /-- The text ends outside quotes. -/
  closed : openQuote none cs = none
  /-- Where no quote is open, nothing else stands than these and the double quote that opens one. -/
  outside : ∀ before c after, before ++ c :: after = cs → openQuote none before = none →
    c.isAlphanum = true ∨ c ∈ ['_', '.', '"']

theorem NameText.contained {cs : List Char} (h : NameText cs) : Contained cs := by
  have haccepts : accepts .start cs = true := accepts_iff_continues.2 h
  refine ⟨openQuote_of_accepts haccepts, ?_⟩
  rintro before c after rfl hquote
  exact plain_of_accepts haccepts hquote

/-! ### Names of tables -/

theorem read_eq_ok_iff {name text : String} :
    read name = .ok text ↔ NameText (trimChars name.toList) ∧ text = trim name := by
  rw [read, ← isValid_iff_nameText]
  split
  case isTrue h => exact ⟨fun hread => ⟨h, (Except.ok.inj hread).symm⟩, fun h => h.2 ▸ rfl⟩
  case isFalse h => exact ⟨nofun, fun hvalid => absurd hvalid.1 h⟩

theorem read_eq_error_iff {name : String} {cause : Cause} :
    read name = .error cause ↔
      ¬ NameText (trimChars name.toList) ∧ cause = .invalidIdentifier name := by
  rw [read, ← isValid_iff_nameText]
  split
  case isTrue h => exact ⟨nofun, fun hvalid => absurd h hvalid.1⟩
  case isFalse h => exact ⟨fun hread => ⟨h, (Except.error.inj hread).symm⟩, fun h => h.2 ▸ rfl⟩

/-! ### Queries -/

section Query

variable {compiler : Compiler} {f : Filter}

/-- The name of the table stands in a query as it is read. -/
theorem exists_text_of_query {q : Fragment} (h : compiler.query f = .ok q) :
    ∃ name rest, read compiler.table = .ok name ∧
      q.text = "SELECT * FROM " ++ name ++ " WHERE " ++ rest := by
  obtain ⟨part, name, -, hname, rfl⟩ := Compiler.query_eq_ok_iff.1 h
  exact ⟨name, (part.getD (.sql "TRUE")).text, hname, rfl⟩

/-- A name that cannot be read is the error of a query whose condition is there. -/
theorem query_eq_error_of_read {part : Option Fragment} {cause : Cause}
    (hpart : compiler.condition f = .ok part) (hread : read compiler.table = .error cause) :
    compiler.query f = .error ⟨cause, none⟩ := by
  have hselect : selectQuery compiler.table part = .error cause := by
    rw [selectQuery, Fragment.pushIdentifier, hread]
    rfl
  rw [Compiler.query, hpart]
  change (selectQuery compiler.table part).mapError _ = _
  rw [hselect]
  rfl

end Query

/-- The name of a table can be read if and only if the grammar has it, blanks around it aside, and
what is read is the name without these blanks. So the name that stands in the SQL of a query closes
its quoted parts and has only letters, digits, underscores and points outside of them; with a name
that the grammar has, there is a query as soon as there is a condition; and with any other name, the
whole of it is the error then. -/
theorem name_exact (name : String) :
    (∀ text, read name = .ok text ↔ NameText (trimChars name.toList) ∧ text = trim name) ∧
      (∀ cause, read name = .error cause ↔
        ¬ NameText (trimChars name.toList) ∧ cause = .invalidIdentifier name) ∧
      ∀ (compiler : Compiler) (f : Filter), compiler.table = name →
        (∀ q, compiler.query f = .ok q → Contained (trimChars name.toList) ∧
          ∃ rest, q.text = "SELECT * FROM " ++ trim name ++ " WHERE " ++ rest) ∧
        ∀ part, compiler.condition f = .ok part →
          (NameText (trimChars name.toList) → ∃ q, compiler.query f = .ok q) ∧
          (¬ NameText (trimChars name.toList) →
            compiler.query f = .error ⟨.invalidIdentifier name, none⟩) := by
  refine ⟨fun _ => read_eq_ok_iff, fun _ => read_eq_error_iff, ?_⟩
  rintro compiler f rfl
  constructor
  · intro q hq
    obtain ⟨_, rest, hread, htext⟩ := exists_text_of_query hq
    obtain ⟨hname, rfl⟩ := read_eq_ok_iff.1 hread
    exact ⟨hname.contained, rest, htext⟩
  · intro part hpart
    constructor
    · intro hname
      have hread := read_eq_ok_iff.2 ⟨hname, rfl⟩
      exact ⟨_, Compiler.query_eq_ok_iff.2 ⟨part, _, hpart, hread, rfl⟩⟩
    · intro hname
      exact query_eq_error_of_read hpart (read_eq_error_iff.2 ⟨hname, rfl⟩)

/-- A name whose quoted part has a single quote, a semicolon and a comment in it stands in the query
without the blanks around it; a name whose last quote is left open is refused with them. -/
theorem name_exact_of_quoted_and_unclosed :
    let quoted : Compiler := { Compiler.sample with table := " public.\"it's; --\".t_1\n" }
    let unclosed : Compiler := { Compiler.sample with table := "ice_cream.\" " }
    let f : Filter := ⟨none, []⟩
    (∃ q rest, quoted.query f = .ok q ∧ Contained "public.\"it's; --\".t_1".toList ∧
      q.text = "SELECT * FROM public.\"it's; --\".t_1 WHERE " ++ rest) ∧
      unclosed.query f = .error ⟨.invalidIdentifier "ice_cream.\" ", none⟩ := by
  intro quoted unclosed f
  have htrim : trim quoted.table = "public.\"it's; --\".t_1" := by decide
  have hname : NameText (trimChars quoted.table.toList) := isValid_iff_nameText.1 (by decide)
  have hunclosed : ¬ NameText (trimChars unclosed.table.toList) :=
    mt isValid_iff_nameText.2 (by decide)
  obtain ⟨-, -, hquery⟩ := name_exact quoted.table
  obtain ⟨htext, hok⟩ := hquery quoted f rfl
  obtain ⟨q, hq⟩ := (hok none rfl).1 hname
  obtain ⟨hcontained, rest, hrest⟩ := htext q hq
  rw [← toList_trim, htrim] at hcontained
  rw [htrim] at hrest
  refine ⟨⟨q, rest, hq, hcontained, hrest⟩, ?_⟩
  obtain ⟨-, -, hquery⟩ := name_exact unclosed.table
  exact ((hquery unclosed f rfl).2 none rfl).2 hunclosed

end FilterSql.Identifier
