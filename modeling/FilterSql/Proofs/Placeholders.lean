import FilterSql.Proofs.Condition.Built
import FilterSql.Proofs.Identifier

/-!
# Placeholders stand outside quotes

A placeholder inside quotes would be text of its own and not stand for its parameter. Over columns
that close the quotes they open, no quote is open at any placeholder of a query: the words of the
builders close theirs, and so does the name of a table.

## Main definitions

* `FilterSql.Fragment.ClosesQuotes`: the texts that end outside quotes.
* `FilterSql.Fragment.Live`: no quote is open at the placeholders and the end of a fragment.

## Main results

* `FilterSql.Fragment.Built.live`: fragments built from texts that close their quotes.
* `FilterSql.Identifier.closesQuotes_of_read`: a name closes the quotes it opens.
* `FilterSql.Compiler.live_of_query`: the queries of filters without overrides.
-/

namespace FilterSql

open Template

/-! ### Fragments -/

namespace Fragment

/-- Where a fragment is read from its start, no quote is open at its placeholders, and none at its
end. -/
structure Live (f : Fragment) : Prop where
  /-- The text ends outside quotes. -/
  closed : openQuote none f.text.toList = none
  /-- Each placeholder stands at its byte behind a text that ends outside quotes. -/
  outside : ∀ offset ∈ f.placeholders, ∃ before after, f.text = before ++ "?" ++ after ∧
    before.utf8ByteSize = offset ∧ openQuote none before.toList = none

/-- The texts that end outside quotes. -/
def ClosesQuotes (text : String) : Prop :=
  openQuote none text.toList = none

instance : DecidablePred ClosesQuotes := fun text =>
  inferInstanceAs (Decidable (openQuote none text.toList = none))

namespace Live

variable {f g : Fragment}

theorem sql {text : String} (h : ClosesQuotes text) : (Fragment.sql text).Live where
  closed := h
  outside := by simp

theorem append (hf : f.Live) (hg : g.Live) : (f ++ g).Live where
  closed := by rw [text_append, String.toList_append, openQuote_append, hf.closed, hg.closed]
  outside offset hoffset := by
    rw [placeholders_append, List.mem_append, List.mem_map] at hoffset
    rcases hoffset with hoffset | ⟨offset, hoffset, rfl⟩
    · obtain ⟨before, after, htext, hsize, hquote⟩ := hf.outside offset hoffset
      refine ⟨before, after ++ g.text, ?_, hsize, hquote⟩
      rw [text_append, htext, String.append_assoc]
    · obtain ⟨before, after, htext, hsize, hquote⟩ := hg.outside offset hoffset
      refine ⟨f.text ++ before, after, ?_, ?_, ?_⟩
      · rw [text_append, htext]
        simp only [String.append_assoc]
      · rw [String.utf8ByteSize_append, hsize]
      · rw [String.toList_append, openQuote_append, hf.closed, hquote]

theorem parenthesize (h : f.Live) : f.parenthesize.Live := by
  rw [parenthesize_eq_append]
  exact ((sql (by decide)).append h).append (sql (by decide))

/-- A placeholder stands at the start of its text. -/
theorem placeholder {p : Param} (h : ∀ type, p.cast? = some type → ClosesQuotes ("::" ++ type)) :
    (Fragment.placeholder p).Live := by
  obtain ⟨cast, hcast, htext⟩ := exists_text_placeholder (P := ClosesQuotes) (by decide) h
  constructor
  · have hmark : openQuote none "?".toList = none := by decide
    rw [htext, String.toList_append, openQuote_append, hmark]
    exact hcast
  · intro offset hoffset
    obtain rfl : offset = 0 := List.mem_singleton.1 hoffset
    exact ⟨"", cast, by rw [htext, String.empty_append], rfl, rfl⟩

end Live

/-- What is built from texts that end outside quotes has its placeholders and its end there. -/
theorem Built.live {P : String → Prop} {f : Fragment} (hP : ∀ text, P text → ClosesQuotes text)
    (h : Built P f) : f.Live := by
  induction h with
  | empty => exact .sql (by decide)
  | sql h => exact .sql (hP _ h)
  | placeholder h => exact .placeholder fun type htype => hP _ (h type htype)
  | append _ _ ihf ihg => exact ihf.append ihg
  | parenthesize _ ih => exact ih.parenthesize

end Fragment

/-! ### Names of tables -/

namespace Identifier

open Text

/-- The name of a table ends outside quotes. -/
theorem closesQuotes_of_read {name text : String} (h : read name = .ok text) :
    Fragment.ClosesQuotes text := by
  rw [read] at h
  split at h
  case isTrue hvalid =>
    cases h
    rw [Fragment.ClosesQuotes, toList_trim]
    exact openQuote_of_accepts hvalid
  case isFalse => cases h

end Identifier

/-! ### Queries -/

namespace Compiler

variable {compiler : Compiler}

/-- Without overrides, over columns that close the quotes they open, no quote is open at any
placeholder of a query, and none at its end. -/
theorem live_of_query (compiler : Compiler) (hempty : compiler.overrides = .empty)
    (hcolumns : ∀ source ∈ compiler.catalog.sources, openQuote none source.column.toList = none)
    (f : Filter) (q : Fragment) (h : compiler.query f = .ok q) : q.Live := by
  obtain ⟨part, name, hpart, hname, rfl⟩ := query_eq_ok_iff.1 h
  have hstart : (((Fragment.sql "SELECT * FROM ").push name).push " WHERE ").Live :=
    ((Fragment.Live.sql (by decide)).append
      (.sql (Identifier.closesQuotes_of_read hname))).append (.sql (by decide))
  refine hstart.append ?_
  cases part with
  | none => exact .sql (by decide)
  | some condition =>
    have hwords : ∀ s ∈ Condition.words, Fragment.ClosesQuotes s := by decide
    have hseparators : ∀ connective : Connective, Fragment.ClosesQuotes connective.separator := by
      intro connective
      cases connective <;> decide
    exact (built_of_condition hempty hwords hseparators hcolumns hpart).live fun _ => id

/-- Quotes and question marks in the name of a table and in a column leave the two placeholders of a
query outside quotes. -/
theorem live_of_query_beside_quotes :
    let flavor : DataSource :=
      { displayName := "Flavor", column := "coalesce(flavor, '?''s \"')", types := [.string] }
    let compiler : Compiler := { sample with table := "public.\"it's\"", catalog := ⟨[flavor]⟩ }
    let f : Filter := ⟨some "or", [.clause ⟨"Flavor", "contains", .string "Mint"⟩,
      .clause ⟨"Flavor", "starts with", .string "'"⟩]⟩
    compiler.overrides = .empty ∧
      (∀ source ∈ compiler.catalog.sources, openQuote none source.column.toList = none) ∧
      ∃ q, compiler.query f = .ok q ∧ q.placeholders.length = 2 ∧ q.Live := by
  intro flavor compiler f
  have hcolumns : ∀ source ∈ compiler.catalog.sources,
      openQuote none source.column.toList = none := by
    decide +zetaReduce
  have hlength : (compiler.query f).toOption.map (·.placeholders.length) = some 2 := by
    decide +kernel +zetaReduce
  obtain ⟨q, hq, hlength⟩ := exists_of_map_toOption_eq_some hlength
  exact ⟨rfl, hcolumns, q, hq, hlength, live_of_query compiler rfl hcolumns f q hq⟩

end Compiler

end FilterSql
