import FilterSql.Proofs.Sql.Token

/-!
# The tokens of a template

A template is read mark by mark: a question mark outside quotes is a place for a parameter, two of
them are one that stays, and every other character stands for itself. Filled with as many parameters
as it has places, a template is a list of tokens, and its fragment is the fragment of that list.

## Main definitions

* `FilterSql.Template.marks`: the characters and the places of a template.
* `FilterSql.Template.tokens?`: the tokens of a template with its parameters.

## Main results

* `FilterSql.Template.scan_eq_marks`: the scanner of templates finds the characters and the places.
* `FilterSql.Fragment.toOption_ofTemplate`: the fragment of a template is that of its tokens.
-/

namespace FilterSql

namespace Template

/-- The characters that a template stands for, with `none` at the places of parameters, given the
quote that is open before it. -/
def marks : Option Char → List Char → List (Option Char)
  | _, [] => []
  | none, '?' :: '?' :: rest => some '?' :: marks none rest
  | none, '?' :: rest => none :: marks none rest
  | quote, c :: rest => some c :: marks (quoteAfter quote c) rest

theorem marks_nil (quote : Option Char) : marks quote [] = [] := by
  rw [marks]

theorem marks_doubled (cs : List Char) :
    marks none ('?' :: '?' :: cs) = some '?' :: marks none cs := by
  rw [marks]

theorem marks_place {cs : List Char} (h : cs.head? ≠ some '?') :
    marks none ('?' :: cs) = none :: marks none cs := by
  rw [marks]
  rintro rest rfl
  exact h rfl

theorem marks_cons {quote : Option Char} {c : Char} (h : quote = none → c ≠ '?') (cs : List Char) :
    marks quote (c :: cs) = some c :: marks (quoteAfter quote c) cs := by
  rw [marks]
  · exact fun _ hquote hc _ => h hquote hc
  · exact h

/-- The text of some marks, with a question mark at each place. -/
def charsOf (ms : List (Option Char)) : List Char :=
  ms.map (·.getD '?')

@[simp] theorem charsOf_append (ms ns : List (Option Char)) :
    charsOf (ms ++ ns) = charsOf ms ++ charsOf ns :=
  List.map_append

@[simp] theorem charsOf_map_some (cs : List Char) : charsOf (cs.map some) = cs := by
  simp [charsOf, Function.comp_def]

/-- The bytes of the places in a text that begins at the byte `start`. -/
def placesFrom (start : Nat) : List (Option Char) → List Nat
  | [] => []
  | some c :: ms => placesFrom (start + c.utf8Size) ms
  | none :: ms => start :: placesFrom (start + 1) ms

/-- Characters that stand for themselves move what follows by their bytes. -/
theorem placesFrom_map_some_append (start : Nat) (cs : List Char) (ms : List (Option Char)) :
    placesFrom start (cs.map some ++ ms) =
      placesFrom (start + (String.ofList cs).utf8ByteSize) ms := by
  induction cs generalizing start with
  | nil => rfl
  | cons c cs ih =>
    rw [List.map_cons, List.cons_append, placesFrom, ih, String.ofList_cons,
      String.utf8ByteSize_append, String.utf8ByteSize_singleton, Nat.add_assoc]

/-- The tokens of some marks with a parameter for each place. -/
def fill? : List (Option Char) → List Param → Option (List Token)
  | [], [] => some []
  | [], _ :: _ => none
  | some c :: ms, ps => (fill? ms ps).map (.literal (String.singleton c) :: ·)
  | none :: _, [] => none
  | none :: ms, p :: ps => (fill? ms ps).map (.param p :: ·)

/-- The scanner finds the characters and the places of a template. -/
theorem scan_eq_marks (quote : Option Char) (start : Nat) (cs : List Char) :
    scan false quote start cs =
      (charsOf (marks quote cs), placesFrom start (marks quote cs)) := by
  fun_induction marks quote cs generalizing start with
  | case1 => rfl
  | case2 rest ih => simp [scan, ih, consChar, charsOf, placesFrom, Token.utf8Size_mark]
  | case3 rest h ih =>
    have hhead : rest.head? ≠ some '?' := by
      intro hrest
      obtain ⟨rest', rfl⟩ := List.head?_eq_some_iff.1 hrest
      exact h rest' rfl
    simp [scan, ih, hhead, consPlaceholder, charsOf, placesFrom]
  | case4 quote c rest h h' ih =>
    have hmark : (quote.isNone && decide (c = '?')) = false := by
      rw [← Bool.not_eq_true, Bool.and_eq_true, Option.isNone_iff_eq_none, decide_eq_true_eq]
      exact fun ⟨hquote, hc⟩ => h' hquote hc
    simp [scan, ih, hmark, consChar, charsOf, placesFrom]

theorem split_eq_marks (template : String) :
    split template =
      (charsOf (marks none template.toList), placesFrom 0 (marks none template.toList)) :=
  scan_eq_marks none 0 template.toList

/-- Some marks can be filled with as many parameters as they have places. -/
theorem isSome_fill?_iff (start : Nat) {ms : List (Option Char)} {ps : List Param} :
    (fill? ms ps).isSome ↔ (placesFrom start ms).length = ps.length := by
  fun_induction fill? ms ps generalizing start with
  | case1 => simp [placesFrom]
  | case2 => simp [placesFrom]
  | case3 c ms ps ih => simpa [placesFrom] using ih _
  | case4 => simp [placesFrom]
  | case5 ms p ps ih => simpa [placesFrom] using ih _

/-- Filled marks have the text, the parameters and the placeholders of the marks. -/
theorem parts_of_fill? (start : Nat) {ms : List (Option Char)} {ps : List Param}
    {ts : List Token} (h : fill? ms ps = some ts) :
    Token.textOf ts = String.ofList (charsOf ms) ∧ Token.paramsOf ts = ps ∧
      Token.offsetsFrom start ts = placesFrom start ms := by
  fun_induction fill? ms ps generalizing start ts with
  | case1 =>
    cases h
    exact ⟨rfl, rfl, rfl⟩
  | case2 => cases h
  | case3 c ms ps ih =>
    obtain ⟨us, hus, rfl⟩ := Option.map_eq_some_iff.1 h
    obtain ⟨htext, hparams, hoffsets⟩ := ih (start + c.utf8Size) hus
    refine ⟨?_, hparams, ?_⟩
    · simp [Token.textOf, htext, charsOf, String.ofList_cons]
    · rw [Token.offsetsFrom, String.utf8ByteSize_singleton, hoffsets, placesFrom]
  | case4 => cases h
  | case5 ms p ps ih =>
    obtain ⟨us, hus, rfl⟩ := Option.map_eq_some_iff.1 h
    obtain ⟨htext, hparams, hoffsets⟩ := ih (start + 1) hus
    refine ⟨?_, ?_, ?_⟩
    · simp [Token.textOf, htext, charsOf, String.ofList_cons]
    · rw [Token.paramsOf, hparams]
    · rw [Token.offsetsFrom, hoffsets, placesFrom]

/-- The tokens of a template with its parameters, if it has as many places. -/
def tokens? (template : String) (ps : List Param) : Option (List Token) :=
  fill? (marks none template.toList) ps

end Template

/-- The fragment of a template is that of its tokens, and neither is there without the other. -/
theorem Fragment.toOption_ofTemplate (template : String) (ps : List Param) :
    (Fragment.ofTemplate template ps).toOption =
      (Template.tokens? template ps).map Token.fragmentOf := by
  rw [Fragment.ofTemplate, Template.split_eq_marks, Template.tokens?]
  generalize Template.marks none template.toList = ms
  have hsome : (Template.fill? ms ps).isSome ↔ (Template.placesFrom 0 ms).length = ps.length :=
    Template.isSome_fill?_iff 0
  cases h : Template.fill? ms ps with
  | none =>
    have hlength : (Template.placesFrom 0 ms).length ≠ ps.length := by
      intro hlength
      rw [← hsome, h] at hlength
      cases hlength
    simp [hlength, Except.toOption]
  | some ts =>
    have hlength : (Template.placesFrom 0 ms).length = ps.length := by
      rw [← hsome, h]
      rfl
    obtain ⟨htext, hparams, hoffsets⟩ := Template.parts_of_fill? 0 h
    simp [hlength, Except.toOption, Token.fragmentOf, htext, hparams, hoffsets]

end FilterSql
