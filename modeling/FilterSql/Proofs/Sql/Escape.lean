import FilterSql.Proofs.Sql.Nesting
import FilterSql.Proofs.Sql.Template

/-!
# Writing templates

Tokens are written as a template by putting a question mark for each parameter and two for each one
of the literals that stands outside quotes. The template is split into the same tokens again if each
parameter stands outside quotes and what comes right after it is no question mark, neither one of a
literal nor that of another parameter: the two would be taken for one that stays.

## Main definitions

* `FilterSql.Template.escape`: characters with the question marks outside quotes doubled.
* `FilterSql.Template.ofTokens`: the template of a list of tokens.
* `FilterSql.Token.Legible`: the lists of tokens whose parameters can be told from their literals.

## Main results

* `FilterSql.Template.marks_escape_append`: doubled question marks are read as they were.
* `FilterSql.Template.marks_writeTokens`: a template has the marks of its tokens.
* `FilterSql.Fragment.ofTemplate_ofTokens`: a template is split into its tokens.
-/

namespace FilterSql

open Template

/-! ### The marks of tokens -/

namespace Token

/-- The characters of the literals, one literal after the other. -/
def literalsOf : List Token → List Char
  | [] => []
  | .literal s :: ts => s.toList ++ literalsOf ts
  | .param _ :: ts => literalsOf ts

/-- The characters of the literals with a place for each parameter. -/
def marksOf : List Token → List (Option Char)
  | [] => []
  | .literal s :: ts => s.toList.map some ++ marksOf ts
  | .param _ :: ts => none :: marksOf ts

theorem ofList_charsOf_marksOf (ts : List Token) :
    String.ofList (charsOf (marksOf ts)) = textOf ts := by
  induction ts with
  | nil => rfl
  | cons t ts ih =>
    cases t with
    | literal s =>
      rw [marksOf, charsOf_append, charsOf_map_some, String.ofList_append, String.ofList_toList, ih,
        textOf]
    | param p =>
      rw [marksOf, textOf, ← ih]
      exact String.ofList_cons

theorem placesFrom_marksOf (start : Nat) (ts : List Token) :
    placesFrom start (marksOf ts) = offsetsFrom start ts := by
  induction ts generalizing start with
  | nil => rfl
  | cons t ts ih =>
    cases t with
    | literal s =>
      rw [marksOf, placesFrom_map_some_append, String.ofList_toList, ih, offsetsFrom]
    | param p => rw [marksOf, placesFrom, ih, offsetsFrom]

/-! ### Legible tokens -/

/-- Tokens after a text in which a quote may be open, such that every parameter stands outside the
quotes of the literals, and no question mark, of a literal or of another parameter, comes right
after it. -/
structure Legible (quote : Option Char) (ts : List Token) : Prop where
  /-- No quote is open where a parameter stands. -/
  outside : ∀ before p after, before ++ .param p :: after = ts →
    openQuote quote (literalsOf before) = none
  /-- The text after a parameter does not begin with a question mark. -/
  alone : ∀ before p after, before ++ .param p :: after = ts →
    (textOf after).toList.head? ≠ some '?'

variable {quote : Option Char} {s : String} {p : Param} {ts : List Token}

theorem legible_nil : Legible quote [] where
  outside before p after h := by simp at h
  alone before p after h := by simp at h

@[simp] theorem legible_literal_cons :
    Legible quote (.literal s :: ts) ↔ Legible (openQuote quote s.toList) ts := by
  constructor
  · intro h
    constructor
    · rintro before p after rfl
      have houtside := h.outside (.literal s :: before) p after rfl
      rwa [literalsOf, openQuote_append] at houtside
    · rintro before p after rfl
      exact h.alone (.literal s :: before) p after rfl
  · intro h
    constructor
    · intro before p after hsplit
      rcases List.append_eq_cons_iff.1 hsplit with ⟨-, hcons⟩ | ⟨before', rfl, hts⟩
      · cases hcons
      · rw [literalsOf, openQuote_append]
        exact h.outside before' p after hts.symm
    · intro before p after hsplit
      rcases List.append_eq_cons_iff.1 hsplit with ⟨-, hcons⟩ | ⟨before', rfl, hts⟩
      · cases hcons
      · exact h.alone before' p after hts.symm

@[simp] theorem legible_param_cons :
    Legible quote (.param p :: ts) ↔
      quote = none ∧ (textOf ts).toList.head? ≠ some '?' ∧ Legible quote ts := by
  constructor
  · intro h
    refine ⟨h.outside [] p ts rfl, h.alone [] p ts rfl, ?_, ?_⟩
    · rintro before q after rfl
      exact h.outside (.param p :: before) q after rfl
    · rintro before q after rfl
      exact h.alone (.param p :: before) q after rfl
  · rintro ⟨hquote, halone, h⟩
    constructor
    · intro before q after hsplit
      rcases List.append_eq_cons_iff.1 hsplit with ⟨rfl, -⟩ | ⟨before', rfl, hts⟩
      · exact hquote
      · exact h.outside before' q after hts.symm
    · intro before q after hsplit
      rcases List.append_eq_cons_iff.1 hsplit with ⟨rfl, hcons⟩ | ⟨before', rfl, hts⟩
      · obtain ⟨-, rfl⟩ := List.cons.inj hcons
        exact halone
      · exact h.alone before' q after hts.symm

instance decidableLegible : (quote : Option Char) → (ts : List Token) → Decidable (Legible quote ts)
  | _, [] => .isTrue legible_nil
  | quote, .literal s :: ts =>
    haveI := decidableLegible (openQuote quote s.toList) ts
    decidable_of_iff _ legible_literal_cons.symm
  | quote, .param _ :: ts =>
    haveI := decidableLegible quote ts
    decidable_of_iff _ legible_param_cons.symm

end Token

/-! ### Templates of tokens -/

namespace Template

open Token

/-- Characters with the question marks outside quotes doubled, given the quote that is open before
them. -/
def escape (quote : Option Char) : List Char → List Char
  | [] => []
  | c :: cs =>
    if quote = none ∧ c = '?' then '?' :: '?' :: escape none cs
    else c :: escape (quoteAfter quote c) cs

/-- The literals with the question marks outside quotes doubled and one for each parameter, given
the quote that is open before them. -/
def writeTokens (quote : Option Char) : List Token → List Char
  | [] => []
  | .literal s :: ts => escape quote s.toList ++ writeTokens (openQuote quote s.toList) ts
  | .param _ :: ts => '?' :: writeTokens quote ts

/-- The template of a list of tokens. -/
def ofTokens (ts : List Token) : String :=
  String.ofList (writeTokens none ts)

/-- Doubled question marks are read as they were, whatever follows. -/
theorem marks_escape_append (quote : Option Char) (cs rest : List Char) :
    marks quote (escape quote cs ++ rest) =
      cs.map some ++ marks (openQuote quote cs) rest := by
  fun_induction escape quote cs with
  | case1 quote => rfl
  | case2 quote c cs h ih =>
    obtain ⟨rfl, rfl⟩ := h
    rw [List.cons_append, List.cons_append, marks_doubled, ih]
    rfl
  | case3 quote c cs h ih =>
    rw [List.cons_append, marks_cons (fun hquote hc => h ⟨hquote, hc⟩), ih]
    rfl

theorem head?_escape (quote : Option Char) (cs : List Char) :
    (escape quote cs).head? = cs.head? := by
  fun_cases escape quote cs with
  | case1 => rfl
  | case2 c cs h => exact congrArg some h.2.symm
  | case3 => rfl

/-- A template begins as the text of its tokens does. -/
theorem head?_writeTokens (quote : Option Char) (ts : List Token) :
    (writeTokens quote ts).head? = (textOf ts).toList.head? := by
  fun_induction writeTokens quote ts with
  | case1 => rfl
  | case2 quote s ts ih =>
    rw [textOf, String.toList_append, List.head?_append, List.head?_append, head?_escape, ih]
  | case3 => simp [textOf]

/-- A template has the marks of its tokens if their parameters can be told from their literals. -/
theorem marks_writeTokens {quote : Option Char} {ts : List Token} (h : Legible quote ts) :
    marks quote (writeTokens quote ts) = marksOf ts := by
  fun_induction writeTokens quote ts with
  | case1 => exact marks_nil _
  | case2 quote s ts ih =>
    rw [marks_escape_append, ih (legible_literal_cons.1 h), marksOf]
  | case3 quote p ts ih =>
    obtain ⟨rfl, halone, hts⟩ := legible_param_cons.1 h
    -- The look-ahead sees the template, of which only the text of the tokens is known.
    rw [← head?_writeTokens none] at halone
    rw [marks_place halone, ih hts, marksOf]

end Template

/-! ### Fragments of templates of tokens -/

/-- The template of tokens whose parameters can be told from their literals has, with these
parameters, the fragment of the tokens: the literals with a question mark for each parameter as its
text, and the bytes of these as its placeholders. So many are also counted in the template. -/
theorem Fragment.ofTemplate_ofTokens (ts : List Token) (h : Token.Legible none ts) :
    ofTemplate (Template.ofTokens ts) (Token.paramsOf ts) = .ok (Token.fragmentOf ts) ∧
      Template.count (Template.ofTokens ts) = (Token.paramsOf ts).length := by
  have hsplit : split (ofTokens ts) =
      (charsOf (Token.marksOf ts), Token.offsetsFrom 0 ts) := by
    rw [split_eq_marks, ofTokens, String.toList_ofList, marks_writeTokens h,
      Token.placesFrom_marksOf]
  have hcount : (Token.offsetsFrom 0 ts).length = (Token.paramsOf ts).length :=
    Token.length_offsetsFrom 0 ts
  constructor
  · simp only [ofTemplate, hsplit, hcount, if_pos, Token.ofList_charsOf_marksOf, Token.fragmentOf]
  · rw [count, hsplit, hcount]

/-- Three question marks in a row are one that stays and a parameter; behind it stand two literals,
one of them empty, with question marks and the other quote between quotes of both kinds. -/
theorem Fragment.ofTemplate_ofTokens_mixed :
    let ts : List Token := [.literal "tags ?", .param (.int 1), .literal "",
      .literal "'?\"?' || \"?'\" ?? ", .param (.int 2)]
    Token.Legible none ts ∧
      Template.ofTokens ts = "tags ???'?\"?' || \"?'\" ???? ?" ∧
      ofTemplate (Template.ofTokens ts) [.int 1, .int 2] =
        .ok ⟨"tags ??'?\"?' || \"?'\" ?? ?", [.int 1, .int 2], [6, 24]⟩ ∧
      Template.count (Template.ofTokens ts) = 2 := by
  intro ts
  have hlegible : Token.Legible none ts := by decide
  have hvalue : Token.fragmentOf ts =
      ⟨"tags ??'?\"?' || \"?'\" ?? ?", [.int 1, .int 2], [6, 24]⟩ :=
    ext (by decide) rfl (by decide)
  obtain ⟨hfragment, hcount⟩ := ofTemplate_ofTokens ts hlegible
  exact ⟨hlegible, by decide, hfragment.trans (congrArg _ hvalue), hcount⟩

/-- Two parameters in a row are not legible: their template is one question mark that stays. -/
example :
    ¬ Token.Legible none [.param .null, .param .null] ∧
      Template.split (Template.ofTokens [.param .null, .param .null]) = (['?'], []) := by
  decide

end FilterSql
