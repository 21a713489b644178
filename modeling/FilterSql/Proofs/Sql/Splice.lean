import Mathlib.Data.List.DropRight
import Mathlib.Data.List.Forall2
import FilterSql.Proofs.Outcome
import FilterSql.Proofs.Sql.Nesting
import FilterSql.Proofs.Sql.Template

/-!
# Templates one after the other

A template carries two things over the place where another one begins: a quote that is open, and a
question mark that waits for a second one. Where neither is carried over, the fragment of both
templates together is that of the first with that of the second behind it, and so on for any number
of templates with a separator in between.

The first template ends with a question mark that waits just if it ends with an odd number of them,
since they are taken two at a time.

## Main definitions

* `FilterSql.Template.Composable`: templates of which the first carries nothing over to the second.
* `FilterSql.Template.Plain`: the separators without quotes and question marks.

## Main results

* `FilterSql.Template.Composable.marks_append`: the marks of two templates one after the other.
* `FilterSql.Fragment.ofTemplate_append`, `FilterSql.Fragment.ofTemplate_intercalate`: their
  fragments, with and without separators.
-/

namespace FilterSql

namespace Template

/-! ### What is carried over -/

/-- Characters of templates of which the first carries nothing over to the second: no quote is open
at its end, and if its last question marks are odd in number, the second begins with none. As no
quote is open at the end of these last question marks, none is open at any of them. -/
structure Composable (cs ds : List Char) : Prop where
  /-- The first template ends outside quotes. -/
  closed : openQuote none cs = none
  /-- No question mark at the end of the first template waits for one in the second. -/
  settled : (cs.rtakeWhile (· = '?')).length % 2 = 1 → ds.head? ≠ some '?'

instance (cs ds : List Char) : Decidable (Composable cs ds) :=
  decidable_of_iff
    (openQuote none cs = none ∧ ((cs.rtakeWhile (· = '?')).length % 2 = 1 → ds.head? ≠ some '?'))
    ⟨fun h => ⟨h.1, h.2⟩, fun h => ⟨h.closed, h.settled⟩⟩

/-- No quote opens with a question mark. -/
theorem openQuote_ne_mark {quote : Option Char} (h : quote ≠ some '?') (cs : List Char) :
    openQuote quote cs ≠ some '?' := by
  induction cs generalizing quote with
  | nil => exact h
  | cons c cs ih =>
    apply ih
    fun_cases quoteAfter quote c with
    | case1 => simp
    | case2 => exact h
    | case3 hopens =>
      rintro ⟨⟩
      cases hopens
    | case4 => simp

/-- Question marks neither open nor close quotes. -/
theorem openQuote_replicate_mark {quote : Option Char} (h : quote ≠ some '?') (n : Nat) :
    openQuote quote (List.replicate n '?') = quote := by
  have hmark : quoteAfter quote '?' = quote := by
    cases quote with
    | none => rfl
    | some q => exact if_neg fun hq => h (congrArg some hq.symm)
  induction n with
  | zero => rfl
  | succ n ih => rw [List.replicate_succ, openQuote_cons, hmark, ih]

/-! ### The marks of two templates -/

theorem getLast?_ne_of_cons {c d : Char} {cs : List Char} (h : (c :: cs).getLast? ≠ some d) :
    cs.getLast? ≠ some d := by
  intro hcs
  rw [List.getLast?_cons, hcs] at h
  exact h rfl

/-- No look-ahead leaves characters of which the last is no question mark. -/
theorem marks_append_of_getLast?_ne {quote : Option Char} {cs : List Char}
    (h : cs.getLast? ≠ some '?') (ds : List Char) :
    marks quote (cs ++ ds) = marks quote cs ++ marks (openQuote quote cs) ds := by
  fun_induction marks quote cs with
  | case1 => rfl
  | case2 cs ih =>
    rw [List.cons_append, List.cons_append, marks_doubled,
      ih (getLast?_ne_of_cons (getLast?_ne_of_cons h))]
    rfl
  | case3 cs hhead ih =>
    -- More characters follow this question mark, which is not the last one, so that the look-ahead
    -- sees none of `ds`.
    have hhead' : (cs ++ ds).head? ≠ some '?' := by
      cases cs with
      | nil => exact absurd rfl h
      | cons c cs =>
        rintro ⟨⟩
        exact hhead cs rfl
    rw [List.cons_append, marks_place hhead', ih (getLast?_ne_of_cons h)]
    rfl
  | case4 quote c cs _ hc ih =>
    rw [List.cons_append, marks_cons hc, ih (getLast?_ne_of_cons h)]
    rfl

/-- Question marks are taken two at a time, so that an even number of them leaves none waiting. -/
theorem marks_replicate_append {ds : List Char} :
    (n : Nat) → (n % 2 = 1 → ds.head? ≠ some '?') →
      marks none (List.replicate n '?' ++ ds) =
        marks none (List.replicate n '?') ++ marks none ds
  | 0, _ => rfl
  | 1, h => marks_place (h rfl)
  | n + 2, h => by
    have hrest := marks_replicate_append n fun hodd => h (by omega)
    rw [List.replicate_succ, List.replicate_succ, List.cons_append, List.cons_append,
      marks_doubled, marks_doubled, hrest, List.cons_append]

/-- Characters are some of which the last is no question mark, and those question marks that are at
their end. -/
theorem exists_append_replicate_eq (cs : List Char) :
    ∃ before : List Char, before.getLast? ≠ some '?' ∧
      before ++ List.replicate (cs.rtakeWhile (· = '?')).length '?' = cs := by
  refine ⟨cs.rdropWhile (· = '?'), ?_, ?_⟩
  · intro hlast
    obtain ⟨hne, hmark⟩ := List.mem_getLast?_eq_getLast hlast
    exact List.rdropWhile_last_not _ _ hne (decide_eq_true hmark.symm)
  · have hmarks : ∀ c ∈ cs.rtakeWhile (· = '?'), decide (c = '?') = true :=
      fun _ => List.mem_rtakeWhile_imp
    have hrun : cs.rtakeWhile (· = '?') =
        List.replicate (cs.rtakeWhile (· = '?')).length '?' :=
      List.eq_replicate_iff.2 ⟨rfl, fun c hc => of_decide_eq_true (hmarks c hc)⟩
    rw [← hrun, List.rdropWhile_append_rtakeWhile]

/-- The marks of two templates are those of the first and then those of the second, if the first
carries nothing over. -/
theorem Composable.marks_append {cs ds : List Char} (h : Composable cs ds) :
    marks none (cs ++ ds) = marks none cs ++ marks none ds := by
  obtain ⟨before, hbefore, hcs⟩ := exists_append_replicate_eq cs
  have hquote : openQuote none before = none := by
    have hclosed := h.closed
    rwa [← hcs, openQuote_append, openQuote_replicate_mark (openQuote_ne_mark (by simp) before)]
      at hclosed
  -- Outside quotes, all that is left to join are the question marks at the end.
  have hrun := marks_replicate_append _ h.settled
  generalize (cs.rtakeWhile (· = '?')).length = n at hcs hrun
  rw [← hcs, List.append_assoc, marks_append_of_getLast?_ne hbefore,
    marks_append_of_getLast?_ne hbefore, hquote, hrun, List.append_assoc]

theorem fill?_append {ms ns : List (Option Char)} {ps qs : List Param} {ts us : List Token}
    (hts : fill? ms ps = some ts) (hus : fill? ns qs = some us) :
    fill? (ms ++ ns) (ps ++ qs) = some (ts ++ us) := by
  fun_induction fill? ms ps generalizing ts with
  | case1 =>
    cases hts
    exact hus
  | case2 => cases hts
  | case3 c ms ps ih =>
    obtain ⟨vs, hvs, rfl⟩ := Option.map_eq_some_iff.1 hts
    rw [List.cons_append, fill?, ih hvs]
    rfl
  | case4 => cases hts
  | case5 ms p ps ih =>
    obtain ⟨vs, hvs, rfl⟩ := Option.map_eq_some_iff.1 hts
    rw [List.cons_append, List.cons_append, fill?, ih hvs]
    rfl

/-! ### Separators -/

/-- Characters without quotes and question marks. -/
def Plain (cs : List Char) : Prop :=
  ∀ c ∈ cs, isQuote c = false ∧ c ≠ '?'

namespace Plain

variable {cs ds : List Char}

theorem quoteAfter_eq {c : Char} (h : isQuote c = false) : quoteAfter none c = none := by
  rw [quoteAfter, h]
  rfl

theorem openQuote_eq (h : Plain cs) : openQuote none cs = none := by
  induction cs with
  | nil => rfl
  | cons c cs ih =>
    obtain ⟨hc, hcs⟩ := List.forall_mem_cons.1 h
    rw [openQuote_cons, quoteAfter_eq hc.1, ih hcs]

theorem marks_eq (h : Plain cs) : marks none cs = cs.map some := by
  induction cs with
  | nil => rfl
  | cons c cs ih =>
    obtain ⟨hc, hcs⟩ := List.forall_mem_cons.1 h
    rw [marks_cons fun _ => hc.2, quoteAfter_eq hc.1, ih hcs, List.map_cons]

theorem head?_ne (h : Plain cs) : cs.head? ≠ some '?' :=
  fun hhead => (h '?' (List.mem_of_head? hhead)).2 rfl

theorem composable (h : Plain cs) (ds : List Char) : Composable cs ds where
  closed := h.openQuote_eq
  settled hodd := by
    have hrun : cs.rtakeWhile (· = '?') = [] := by
      rw [List.rtakeWhile_eq_nil_iff]
      intro hne hlast
      exact (h _ (List.getLast_mem hne)).2 (of_decide_eq_true hlast)
    rw [hrun] at hodd
    cases hodd

end Plain

/-- What separated parts begin with, if the separator does not, is at the beginning of one of
them. -/
theorem exists_head?_of_intercalate {c : Char} {separator : List Char}
    (hseparator : separator.head? ≠ some c) {parts : List (List Char)}
    (h : (separator.intercalate parts).head? = some c) : ∃ part ∈ parts, part.head? = some c := by
  induction parts with
  | nil => simp at h
  | cons part parts ih =>
    cases parts with
    | nil => exact ⟨part, List.mem_singleton_self part, by simpa using h⟩
    | cons next parts =>
      rw [List.intercalate_cons_cons, List.append_assoc, List.head?_append, List.head?_append,
        Option.or_eq_some_iff, Option.or_eq_some_iff] at h
      obtain hpart | ⟨-, hsep | ⟨-, hrest⟩⟩ := h
      · exact ⟨part, List.mem_cons_self, hpart⟩
      · exact absurd hsep hseparator
      · obtain ⟨part', hmem, hhead⟩ := ih hrest
        exact ⟨part', List.mem_cons_of_mem part hmem, hhead⟩

/-- A template that carries nothing over to any of some others carries nothing over to these with
separators before and between them. -/
theorem Composable.intercalate {cs separator next : List Char} {parts : List (List Char)}
    (hseparator : Plain separator) (h : ∀ part ∈ next :: parts, Composable cs part) :
    Composable cs (separator ++ separator.intercalate (next :: parts)) where
  closed := (h next List.mem_cons_self).closed
  settled hodd hhead := by
    rw [List.head?_append, Option.or_eq_some_iff] at hhead
    obtain hsep | ⟨-, hrest⟩ := hhead
    · exact hseparator.head?_ne hsep
    · obtain ⟨part, hmem, hpart⟩ := exists_head?_of_intercalate hseparator.head?_ne hrest
      exact (h part hmem).settled hodd hpart

end Template

/-! ### The fragments of several templates -/

namespace Fragment

open Template

variable {s t : String} {p q : List Param} {f g : Fragment}

theorem ofTemplate_eq_ok_iff :
    ofTemplate s p = .ok f ↔ ∃ ts, tokens? s p = some ts ∧ Token.fragmentOf ts = f := by
  rw [← toOption_eq_some_iff, toOption_ofTemplate, Option.map_eq_some_iff]

/-- Two templates of which the first carries nothing over have, one after the other, their fragments
one after the other. -/
theorem ofTemplate_append (hf : ofTemplate s p = .ok f) (hg : ofTemplate t q = .ok g)
    (h : Composable s.toList t.toList) : ofTemplate (s ++ t) (p ++ q) = .ok (f ++ g) := by
  obtain ⟨ts, hts, rfl⟩ := ofTemplate_eq_ok_iff.1 hf
  obtain ⟨us, hus, rfl⟩ := ofTemplate_eq_ok_iff.1 hg
  refine ofTemplate_eq_ok_iff.2 ⟨ts ++ us, ?_, Token.fragmentOf_append ts us⟩
  rw [tokens?, String.toList_append, h.marks_append]
  exact fill?_append hts hus

/-- A separator without quotes and question marks stands for itself. -/
theorem ofTemplate_plain (h : Plain s.toList) : ofTemplate s [] = .ok (sql s) := by
  have hplaces : placesFrom 0 (s.toList.map some) = [] := by
    have hmove := placesFrom_map_some_append 0 s.toList []
    rwa [List.append_nil] at hmove
  rw [ofTemplate, split_eq_marks, h.marks_eq, charsOf_map_some, hplaces]
  simp [sql]

/-- Any number of templates, of which none carries anything over to a later one, have with a
separator in between their joined fragments. -/
theorem ofTemplate_intercalate {separator : String} (hseparator : Plain separator.toList)
    {parts : List (String × List Param)} {fs : List Fragment}
    (hfs : List.Forall₂ (fun part f => ofTemplate part.1 part.2 = .ok f) parts fs)
    (h : parts.Pairwise fun part later => Composable part.1.toList later.1.toList) :
    ofTemplate (separator.intercalate (parts.map Prod.fst)) (parts.flatMap Prod.snd) =
      .ok (join separator fs) := by
  induction hfs with
  | nil => exact ofTemplate_plain (List.forall_mem_nil _)
  | @cons part f parts fs hpart hparts ih =>
    obtain ⟨hlater, hrest⟩ := List.pairwise_cons.1 h
    have hjoined := ih hrest
    cases hparts with
    | nil => simpa [join] using hpart
    | @cons next g parts fs _ _ =>
      have hbehind := ofTemplate_append (ofTemplate_plain hseparator) hjoined
        (hseparator.composable _)
      have hcomposable : Composable part.1.toList
          (separator ++ separator.intercalate ((next :: parts).map Prod.fst)).toList := by
        have hparts : ∀ cs ∈ ((next :: parts).map Prod.fst).map String.toList,
            Composable part.1.toList cs := by
          intro _ hmem
          rw [List.map_map] at hmem
          obtain ⟨later, hmem', rfl⟩ := List.mem_map.1 hmem
          exact hlater later hmem'
        rw [String.toList_append, String.toList_intercalate]
        exact Composable.intercalate hseparator hparts
      have hall := ofTemplate_append hpart hbehind hcomposable
      rw [← String.append_assoc, ← append_assoc] at hall
      rw [join_cons_cons, List.flatMap_cons, List.map_cons, List.map_cons,
        String.intercalate_cons_cons]
      exact hall

/-- Two templates of which the first carries nothing over to the second have, one after the other
and with their parameters in this order, the fragment of the first with that of the second behind
it: text, parameters and placeholders. Any number of templates, each two of which are such, have
with a separator in between their joined fragments. -/
theorem ofTemplate_composes :
    (∀ (s t : String) (p q : List Param) (f g : Fragment),
      ofTemplate s p = .ok f → ofTemplate t q = .ok g → Composable s.toList t.toList →
        ofTemplate (s ++ t) (p ++ q) = .ok (f ++ g)) ∧
      ∀ (separator : String) (parts : List (String × List Param)) (fs : List Fragment),
        List.Forall₂ (fun part f => ofTemplate part.1 part.2 = .ok f) parts fs →
        (parts.Pairwise fun part later => Composable part.1.toList later.1.toList) →
        Plain separator.toList →
          ofTemplate (separator.intercalate (parts.map Prod.fst)) (parts.flatMap Prod.snd) =
            .ok (join separator fs) :=
  ⟨fun _ _ _ _ _ _ hf hg h => ofTemplate_append hf hg h,
    fun _ _ _ hfs h hseparator => ofTemplate_intercalate hseparator hfs h⟩

/-- Two question marks in front of a parameter, and nothing between the templates: the placeholders
behind are moved by the text in front, which is shorter than its template. -/
theorem ofTemplate_composes_without_separator :
    let f : Fragment := ⟨"doc ?", [], []⟩
    let g : Fragment := ⟨"? = '?'", [.int 1], [0]⟩
    let h : Fragment := ⟨", é ?", [.int 2], [5]⟩
    ofTemplate ("doc ??" ++ "? = '?'") ([] ++ [.int 1]) = .ok (f ++ g) ∧
      ofTemplate ("".intercalate ["doc ??", "? = '?'", ", é ?"]) [.int 1, .int 2] =
        .ok (join "" [f, g, h]) ∧
      (join "" [f, g, h]).text = "doc ?? = '?', é ?" ∧
      (join "" [f, g, h]).placeholders = [5, 17] := by
  intro f g h
  have hf : ofTemplate "doc ??" [] = .ok f := rfl
  have hg : ofTemplate "? = '?'" [.int 1] = .ok g := rfl
  have hh : ofTemplate ", é ?" [.int 2] = .ok h := rfl
  let parts : List (String × List Param) :=
    [("doc ??", []), ("? = '?'", [.int 1]), (", é ?", [.int 2])]
  have hpairs : parts.Pairwise fun part later =>
      Composable part.1.toList later.1.toList := by decide
  have hplain : Plain "".toList := List.forall_mem_nil _
  obtain ⟨happend, hjoin⟩ := ofTemplate_composes
  have hjoined := hjoin "" parts [f, g, h] (.cons hf (.cons hg (.cons hh .nil))) hpairs hplain
  exact ⟨happend _ _ _ _ _ _ hf hg (by decide), hjoined, by decide, by decide⟩

/-- It is not enough that no template carries anything over to the next one: without a separator,
an empty template does not keep two question marks apart. -/
example :
    Composable ['?'] [] ∧ Composable [] ['?'] ∧ ¬ Composable ['?'] ['?'] ∧
      Template.count ("".intercalate ["?", "", "?"]) = 0 := by
  decide

end Fragment

end FilterSql
