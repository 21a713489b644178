import FilterSql.Proofs.Condition.Writing

/-!
# Searching for a text

A column is searched for a text at its start or anywhere in it by putting percent signs around the
text and taking the whole for a pattern. So the signs of patterns are signs in the text as well. A
text without any is searched for as it is, whatever the case of its letters. A text that has one is
not: there are columns which are selected without having the text in them, or are not selected
although they have. A backslash at the end of the text even takes away the meaning of the percent
sign that is put behind it.

## Main results

* `FilterSql.Comparison.search_iff_accepts`: a search selects what the pieces of its pattern accept.
* `FilterSql.Condition.searches_literally_iff_plain`: the texts that are searched for as they are.
-/

namespace FilterSql

open Wildcard

/-! ### Patterns of searches -/

namespace Comparison

variable {db : Database} {s : String} {ps : List Wildcard} {found : List Char → Prop}

/-- A search selects the texts that the pieces of its pattern accept. -/
theorem search_iff_accepts (anywhere : Bool)
    (hread : read? ((if anywhere then ['%'] else []) ++ s.toList ++ ['%']) = some ps) :
    (∀ d c, db.chars? d = some c →
      ((search anywhere s).strict.truth db (some d) = .true ↔ found c)) ↔
    ∀ t, accepts db.fold ps t = true ↔ found t := by
  have htruth {d : db.Datum} {c : List Char} (hd : db.chars? d = some c) :
      (search anywhere s).strict.truth db (some d) = .true ↔ accepts db.fold ps c = true :=
    db.fits_eq_true_iff hread hd
  constructor
  · intro h t
    obtain ⟨d, hd⟩ := db.exists_chars?_eq t
    exact (htruth hd).symm.trans (h d t hd)
  · exact fun h d c hd => (htruth hd).trans (h c)

/-- A text that is searched for anywhere is found just where it occurs if and only if it is plain.
-/
theorem search_anywhere_iff_plain (db : Database) (s : String) :
    (∀ d c, db.chars? d = some c →
      ((search true s).strict.truth db (some d) = .true ↔
        s.toList.map db.fold <:+: c.map db.fold)) ↔ Plain s.toList := by
  obtain ⟨ps, hread, -⟩ := exists_read?_append db.fold_signs s.toList
  have hpattern : read? (['%'] ++ s.toList ++ ['%']) = some (run :: ps) :=
    congrArg (Option.map (run :: ·)) hread
  rw [search_iff_accepts true hpattern]
  exact accepts_anywhere_iff_plain db.fold_signs hread

/-- A text that is searched for at the start is found just where it stands there if and only if it
is plain. -/
theorem search_ahead_iff_plain (db : Database) (s : String) :
    (∀ d c, db.chars? d = some c →
      ((search false s).strict.truth db (some d) = .true ↔
        s.toList.map db.fold <+: c.map db.fold)) ↔ Plain s.toList := by
  obtain ⟨ps, hread, -⟩ := exists_read?_append db.fold_signs s.toList
  rw [search_iff_accepts false hread]
  exact accepts_ahead_iff_plain db.fold_signs hread

end Comparison

/-! ### Conditions of searches -/

namespace Condition

/-- A text is searched for as it is, whatever the case of its letters, just if it is plain: anywhere
in a column, and at its start. -/
theorem searches_literally_iff_plain (column : String) (now : Timestamp) (op : Operator)
    (htype : op.type = .string) (s : String) :
    (op.keyword = "contains" → ∃ f, build column op (.text s) now = .ok f ∧ ∀ db : Database,
      (∀ d c, db.chars? d = some c → (Selects db column f (some d) ↔
        s.toList.map db.fold <:+: c.map db.fold)) ↔ Plain s.toList) ∧
    (op.keyword = "starts with" → ∃ f, build column op (.text s) now = .ok f ∧ ∀ db : Database,
      (∀ d c, db.chars? d = some c → (Selects db column f (some d) ↔
        s.toList.map db.fold <+: c.map db.fold)) ↔ Plain s.toList) := by
  constructor
  · intro hop
    refine ⟨_, build_of_contains column htype hop s now, fun db => ?_⟩
    simp only [selects_write_iff]
    exact Comparison.search_anywhere_iff_plain db s
  · intro hop
    refine ⟨_, build_of_startsWith column htype hop s now, fun db => ?_⟩
    simp only [selects_write_iff]
    exact Comparison.search_ahead_iff_plain db s

/-- A text of letters is searched for in either case, anywhere and at the start. -/
theorem searches_literally_iff_plain_for_mint :
    let contains : Operator := { name := "contains", type := .string }
    let starts : Operator := { name := "starts with", type := .string }
    let db := Database.ofParams
    let now : Timestamp := ⟨0⟩
    (contains.type = .string ∧ contains.keyword = "contains") ∧
    (starts.type = .string ∧ starts.keyword = "starts with") ∧
    (∃ f, build "flavour" contains (.text "Mint") now = .ok f ∧
      Selects db "flavour" f (some (.text "pepperMINT")) ∧
      ¬ Selects db "flavour" f (some (.text "mi nt"))) ∧
    ∃ f, build "flavour" starts (.text "Mint") now = .ok f ∧
      Selects db "flavour" f (some (.text "mint chip")) ∧
      ¬ Selects db "flavour" f (some (.text "pepperMINT")) := by
  have hcontains : Operator.keyword { name := "contains", type := .string } = "contains" := rfl
  have hstarts : Operator.keyword { name := "starts with", type := .string } = "starts with" := rfl
  have hplain : Plain "Mint".toList := by decide +kernel
  intro contains starts db now
  obtain ⟨f, hf, hfound⟩ :=
    (searches_literally_iff_plain "flavour" now contains rfl "Mint").1 hcontains
  obtain ⟨g, hg, hahead⟩ :=
    (searches_literally_iff_plain "flavour" now starts rfl "Mint").2 hstarts
  have hfound := (hfound db).2 hplain
  have hahead := (hahead db).2 hplain
  refine ⟨⟨rfl, hcontains⟩, ⟨rfl, hstarts⟩, ⟨f, hf, (hfound _ _ rfl).2 ?_, fun h => ?_⟩,
    g, hg, (hahead _ _ rfl).2 ?_, fun h => ?_⟩
  · decide +kernel +zetaReduce
  · exact absurd ((hfound _ _ rfl).1 h) (by decide +kernel +zetaReduce)
  · decide +kernel +zetaReduce
  · exact absurd ((hahead _ _ rfl).1 h) (by decide +kernel +zetaReduce)

/-- What has `100` in it is selected where `100%` is searched for, although there is no percent sign
in it. Where a start with a backslash is searched for, a column with such a start is not selected.
-/
theorem searches_for_more_and_for_less :
    let contains : Operator := { name := "contains", type := .string }
    let starts : Operator := { name := "starts with", type := .string }
    let db := Database.ofParams
    let now : Timestamp := ⟨0⟩
    (∃ f, build "flavour" contains (.text "100%") now = .ok f ∧
      Selects db "flavour" f (some (.text "1000 ml")) ∧
      ¬ "100%".toList.map db.fold <:+: "1000 ml".toList.map db.fold) ∧
    ∃ f, build "flavour" starts (.text "C:\\") now = .ok f ∧
      ¬ Selects db "flavour" f (some (.text "C:\\Users")) ∧
      "C:\\".toList.map db.fold <+: "C:\\Users".toList.map db.fold := by
  have hcontains : Operator.keyword { name := "contains", type := .string } = "contains" := rfl
  have hstarts : Operator.keyword { name := "starts with", type := .string } = "starts with" := rfl
  intro contains starts db now
  refine ⟨⟨_, build_of_contains "flavour" rfl hcontains "100%" now, selects_write_iff.2 ?_, ?_⟩,
    ⟨_, build_of_startsWith "flavour" rfl hstarts "C:\\" now, fun h => ?_, ?_⟩⟩
  · decide +kernel +zetaReduce
  · decide +kernel +zetaReduce
  · exact absurd (selects_write_iff.1 h) (by decide +kernel +zetaReduce)
  · decide +kernel +zetaReduce

end Condition

end FilterSql
