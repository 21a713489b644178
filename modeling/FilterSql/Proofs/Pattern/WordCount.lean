import FilterSql.Proofs.Condition.Builders
import FilterSql.Proofs.Pattern.Reader
import FilterSql.Proofs.Pattern.Strides

/-!
# Counting words with patterns

The conditions on the number of words bind patterns that count strides. The one for fewer than `n`
words lets a text have `n - 1` strides and a last word behind them. A text of `n` words has no more
strides than that unless it ends with a blank. So the pattern is found in it as well, where it has
no blanks at its ends.

The one for more than `n` words asks for `n` strides and a word at the end of the text, whatever is
in front of them. The first of these strides may be the end of a word, so all words are still
counted.

## Main definitions

* `FilterSql.Pattern.stride`: the pattern of a stride.
* `FilterSql.Pattern.shortText`: the pattern of texts with a limited number of strides.
* `FilterSql.Pattern.longEnd`: the pattern of an end of a text with a number of strides.

## Main results

* `FilterSql.Pattern.found_shortText_iff`, `FilterSql.Pattern.found_longEnd_iff`: the texts that are
  short, and those with a long end.
* `FilterSql.Pattern.ofText?_patternFewerThan`, `FilterSql.Pattern.ofText?_patternMoreThan`: the
  patterns that conditions bind.
* `FilterSql.Condition.fewer_finds_up_to`, `FilterSql.Condition.more_finds_more`: the number of
  words of the texts that they are found in.
-/

namespace FilterSql

open Text

variable {blank : Char → Bool} {s before after : List Char}

/-! ### Patterns -/

namespace Pattern

/-- A word and the blanks behind it. -/
def stride : Pattern :=
  sequence [run false 1, run true 1]

/-- A whole text of a limited number of strides and a last word, which may be missing. -/
def shortText (most : Nat) : Pattern :=
  sequence [start, stride.repeated 0 (some most), run false 0, finish]

/-- An end of a text with a number of strides and a last word. -/
def longEnd (count : Nat) : Pattern :=
  sequence [stride.repeated count (some count), run false 1, finish]

theorem matches_stride_iff : stride.Matches blank before s after ↔ Stride blank s := by
  rw [stride, matches_sequence_cons]
  constructor
  · rintro ⟨v, w, rfl, hv, hw⟩
    obtain ⟨hvlength, hv⟩ := matches_run_iff.1 hv
    obtain ⟨hwlength, hw⟩ := matches_run_iff.1 (matches_sequence_singleton.1 hw)
    exact ⟨v, w, rfl, ⟨List.ne_nil_of_length_pos hvlength, hv⟩,
      List.ne_nil_of_length_pos hwlength, hw⟩
  · rintro ⟨v, w, rfl, ⟨hne, hv⟩, hwne, hw⟩
    exact ⟨v, w, rfl, matches_run_iff.2 ⟨List.length_pos_of_ne_nil hne, hv⟩,
      matches_sequence_singleton.2 (matches_run_iff.2 ⟨List.length_pos_of_ne_nil hwne, hw⟩)⟩

/-- Repeated strides are strides one after another. -/
theorem matches_strides_iff {least : Nat} {most : Option Nat} :
    (stride.repeated least most).Matches blank before s after ↔
      ∃ parts : List (List Char), least ≤ parts.length ∧ (∀ m ∈ most, parts.length ≤ m) ∧
        (∀ t ∈ parts, Stride blank t) ∧ s = parts.flatten := by
  have hiterated {n : Nat} :
      Iterated (stride.Matches blank) n before s after ↔ ∃ parts : List (List Char),
        parts.length = n ∧ (∀ t ∈ parts, Stride blank t) ∧ s = parts.flatten :=
    iterated_iff (M := stride.Matches blank) fun _ _ _ => matches_stride_iff
  constructor
  · rintro ⟨n, hleast, hmost, hn⟩
    obtain ⟨parts, rfl, hparts, hs⟩ := hiterated.1 hn
    exact ⟨parts, hleast, hmost, hparts, hs⟩
  · rintro ⟨parts, hleast, hmost, hparts, hs⟩
    exact ⟨parts.length, hleast, hmost, hiterated.2 ⟨parts, rfl, hparts, hs⟩⟩

/-- A short text is at most so many strides and a last word. -/
theorem found_shortText_iff {most : Nat} :
    (shortText most).Found blank s ↔
      ∃ parts last, Paced blank s parts last ∧ parts.length ≤ most := by
  constructor
  · rintro ⟨before, t, after, rfl, h⟩
    obtain ⟨rfl, strides, last, rfl, hstrides, hrest⟩ := matches_start_cons.1 h
    obtain ⟨parts, -, hmost, hparts, rfl⟩ := matches_strides_iff.1 hstrides
    obtain ⟨hlast, rfl⟩ := matches_finish.1 hrest
    exact ⟨parts, last, ⟨by simp, hparts, (matches_run_iff.1 hlast).2⟩, hmost most rfl⟩
  · rintro ⟨parts, last, ⟨rfl, hparts, hlast⟩, hmost⟩
    have hstrides (after : List Char) :
        (stride.repeated 0 (some most)).Matches blank [] parts.flatten after :=
      matches_strides_iff.2 ⟨parts, Nat.zero_le _, by simpa using hmost, hparts, rfl⟩
    have hfinish (before : List Char) :
        (sequence [run false 0, finish]).Matches blank before last [] :=
      matches_finish.2 ⟨matches_run_iff.2 ⟨Nat.zero_le _, hlast⟩, rfl⟩
    exact ⟨[], parts.flatten ++ last, [], (List.append_nil _).symm,
      matches_start_cons.2 ⟨rfl, parts.flatten, last, rfl, hstrides _, hfinish _⟩⟩

/-- Of the texts without blanks at their ends a short one has at most one word more than strides. -/
theorem found_shortText_iff_of_trimmed {most : Nat} (hs : Trimmed blank s) :
    (shortText most).Found blank s ↔ (words blank s).length ≤ most + 1 := by
  rw [found_shortText_iff]
  constructor
  · rintro ⟨parts, last, h, hmost⟩
    rw [h.length_words]
    exact Nat.add_le_add hmost (length_words_le_one h.visible)
  · intro hwords
    obtain ⟨parts, last, h⟩ := exists_paced hs.1
    refine ⟨parts, last, h, ?_⟩
    rw [h.length_words] at hwords
    cases last with
    | nil => simp [h.eq_nil_of_getLast? hs.2]
    | cons c last =>
      rw [words_of_visible h.visible (List.cons_ne_nil c last)] at hwords
      exact Nat.le_of_succ_le_succ hwords

theorem found_shortText_iff_of_not_trimmed {most : Nat} (hs : ¬ Trimmed blank s) :
    (shortText most).Found blank s ↔
      (∀ c ∈ s.head?, blank c = false) ∧ (words blank s).length ≤ most := by
  rw [found_shortText_iff]
  constructor
  · rintro ⟨parts, last, h, hmost⟩
    obtain rfl : last = [] := by_contra fun hne => hs (h.trimmed hne)
    exact ⟨h.not_blank_of_head, by rwa [h.length_words, words_nil]⟩
  · rintro ⟨hhead, hwords⟩
    obtain ⟨parts, last, h⟩ := exists_paced hhead
    rw [h.length_words] at hwords
    exact ⟨parts, last, h, Nat.le_of_add_right_le hwords⟩

/-- A text with a long end has more words than strides of it, and no blank at its end. The match may
start within a word, whose beginning is left over. -/
theorem found_longEnd_iff {count : Nat} :
    (longEnd count).Found blank s ↔
      (∀ c ∈ s.getLast?, blank c = false) ∧ count < (words blank s).length := by
  constructor
  · rintro ⟨before, t, after, rfl, strides, last, rfl, hstrides, hrest⟩
    obtain ⟨parts, hleast, -, hparts, rfl⟩ := matches_strides_iff.1 hstrides
    obtain ⟨hlast, rfl⟩ := matches_finish.1 hrest
    obtain ⟨hlength, hvisible⟩ := matches_run_iff.1 hlast
    have hne : last ≠ [] := List.ne_nil_of_length_pos hlength
    have hpaced : Paced blank (parts.flatten ++ last) parts last := ⟨rfl, hparts, hvisible⟩
    rw [List.append_nil]
    constructor
    · intro c hc
      rw [← List.append_assoc, List.getLast?_append_of_ne_nil _ hne] at hc
      exact hvisible c (List.mem_of_getLast? hc)
    · calc count < parts.length + 1 := Nat.lt_succ_of_le hleast
        _ = (words blank (parts.flatten ++ last)).length := by
          rw [hpaced.length_words, words_of_visible hvisible hne, List.length_singleton]
        _ ≤ (words blank (before ++ (parts.flatten ++ last))).length :=
          length_words_le_append _ _
  · rintro ⟨hend, hcount⟩
    obtain ⟨w, rest, parts, last, rfl, hw, h⟩ := exists_blanks_paced blank s
    rw [words_blanks_append hw, h.length_words] at hcount
    have hne : last ≠ [] := by
      rintro rfl
      have hrest : ∀ c ∈ rest.getLast?, blank c = false := fun c hc =>
        hend c (by rw [List.getLast?_append, hc]; rfl)
      simp [h.eq_nil_of_getLast? hrest] at hcount
    rw [words_of_visible h.visible hne, List.length_singleton] at hcount
    -- The first strides are left over, so that just enough of them are matched.
    let spare := parts.length - count
    have hstrides : ∀ t ∈ parts.drop spare, Stride blank t :=
      fun t ht => h.strides t (List.mem_of_mem_drop ht)
    have hlength : (parts.drop spare).length = count := by
      rw [List.length_drop]
      omega
    refine ⟨w ++ (parts.take spare).flatten, (parts.drop spare).flatten ++ last, [], ?_,
      (parts.drop spare).flatten, last, rfl, ?_, ?_⟩
    · rw [h.eq, ← List.take_append_drop spare parts, List.flatten_append]
      simp
    · exact matches_strides_iff.2
        ⟨_, Nat.le_of_eq hlength.symm, by simp [hlength], hstrides, rfl⟩
    · exact matches_finish.2
        ⟨matches_run_iff.2 ⟨List.length_pos_of_ne_nil hne, h.visible⟩, rfl⟩

/-! ### Written patterns -/

/-- The pattern for fewer words than a number is that of texts with one stride less. -/
theorem ofText?_patternFewerThan {count : Int} (hcount : 0 < count) :
    ofText? (Condition.patternFewerThan count) = some (shortText (count - 1).toNat) := by
  obtain ⟨n, hn⟩ : ∃ n : Nat, count - 1 = n := ⟨(count - 1).toNat, by omega⟩
  have hopening : "^(\\S+\\s+)\x7b0,".toList.foldlM Draft.read {} =
      some { mode := .count (some 0) [], pieces := [stride, start] } := rfl
  have hclosing : "\x7d\\S*$".toList = '\x7d' :: "\\S*$".toList := rfl
  rw [Condition.patternFewerThan, hn, Int.toNat_natCast]
  exact ofText?_count (d := { pieces := [stride, start] }) n hopening hclosing

/-- The pattern for more words than a number is that of so many strides and a word at the end. -/
theorem ofText?_patternMoreThan (count : Int) :
    ofText? (Condition.patternMoreThan count) = some (longEnd (max count 0).toNat) := by
  obtain ⟨n, hn⟩ : ∃ n : Nat, max count 0 = n := ⟨(max count 0).toNat, by omega⟩
  have hopening : "(\\S+\\s+)\x7b".toList.foldlM Draft.read {} =
      some { mode := .count none [], pieces := [stride] } := rfl
  have hclosing : "\x7d\\S+$".toList = '\x7d' :: "\\S+$".toList := rfl
  have hrepeat : Draft.repeatLast { pieces := [stride] } n (some n) =
      some (Draft.add {} (stride.repeated n (some n))) := by
    simp [Draft.repeatLast, repeatable, stride, sequence]
  rw [Condition.patternMoreThan, hn, Int.toNat_natCast]
  rw [ofText?_count (d := { pieces := [stride] }) n hopening hclosing, Option.getD_none, hrepeat]
  rfl

end Pattern

/-! ### Conditions -/

namespace Condition

variable {op : Operator} {value : Value} {count : Int}

theorem startsWith_more_of_fewer (h : startsWith op "fewer than" = true) :
    startsWith op "more than" = false := by
  rw [startsWith] at h ⊢
  cases hkeyword : op.keyword.toList with
  | nil => rfl
  | cons c rest =>
    obtain ⟨rfl, -⟩ : 'f' = c ∧ _ := by simpa [hkeyword] using h
    rfl

theorem ofWordCount_of_fewer (column : String) (hop : startsWith op "fewer than" = true)
    (hvalue : wordCount? value = some count) (hcount : 0 < count) :
    ofWordCount column op value =
      .ok (compare column "~" (.text (patternFewerThan count))) :=
  ofWordCount_eq_ok_iff.2
    ⟨count, hvalue, .inr ⟨startsWith_more_of_fewer hop, hop, if_neg (Int.not_le.2 hcount)⟩⟩

theorem ofWordCount_of_more (column : String) (hop : startsWith op "more than" = true)
    (hvalue : wordCount? value = some count) :
    ofWordCount column op value = .ok (compare column "~" (.text (patternMoreThan count))) :=
  ofWordCount_eq_ok_iff.2 ⟨count, hvalue, .inl ⟨hop, rfl⟩⟩

/-- The pattern for fewer words than a positive number is found in the texts that have no blanks at
their ends and at most so many words, and in those that end with a blank, do not start with one, and
have fewer words. -/
theorem fewer_finds_up_to (column : String) (hop : startsWith op "fewer than" = true)
    (hvalue : wordCount? value = some count) (hcount : 0 < count) :
    ofWordCount column op value =
      .ok (compare column "~" (.text (patternFewerThan count))) ∧
    ∃ p, Pattern.ofText? (patternFewerThan count) = some p ∧ ∀ blank s,
      (Trimmed blank s → (p.Found blank s ↔ ((words blank s).length : Int) ≤ count)) ∧
      (¬ Trimmed blank s → (p.Found blank s ↔
        (∀ c ∈ s.head?, blank c = false) ∧ ((words blank s).length : Int) < count)) := by
  refine ⟨ofWordCount_of_fewer column hop hvalue hcount, _,
    Pattern.ofText?_patternFewerThan hcount, fun blank s => ⟨fun hs => ?_, fun hs => ?_⟩⟩
  · rw [Pattern.found_shortText_iff_of_trimmed hs]
    omega
  · rw [Pattern.found_shortText_iff_of_not_trimmed hs]
    exact and_congr_right' (by omega)

/-- The pattern for fewer than three words is found in three words, unless a blank comes after them,
and not in four. -/
theorem fewer_finds_up_to_three :
    let fewer : Operator := { name := " Fewer THAN __ words", type := .stringLength }
    let pattern := "^(\\S+\\s+)\x7b0,2\x7d\\S*$"
    (startsWith fewer "fewer than" = true ∧ wordCount? (.float 3.9) = some 3 ∧ (0 : Int) < 3) ∧
    ofWordCount "flavour" fewer (.float 3.9) = .ok (compare "flavour" "~" (.text pattern)) ∧
    ∃ p, Pattern.ofText? pattern = some p ∧
      p.Found isBlank "mint  chip\tswirl".toList ∧ ¬ p.Found isBlank "mint chip swirl ".toList ∧
        ¬ p.Found isBlank " mint chip".toList ∧ ¬ p.Found isBlank "mint chip swirl cone".toList := by
  intro fewer pattern
  have hop : startsWith fewer "fewer than" = true := by decide +kernel +zetaReduce
  have hvalue : wordCount? (.float 3.9) = some 3 := by decide +kernel
  have hpattern : patternFewerThan 3 = pattern := by decide +kernel +zetaReduce
  obtain ⟨hbound, p, hp, hfound⟩ := fewer_finds_up_to "flavour" hop hvalue (by decide)
  have hthree : Trimmed isBlank "mint  chip\tswirl".toList ∧
      (words isBlank "mint  chip\tswirl".toList).length = 3 := by decide +kernel
  have hpadded : ¬ Trimmed isBlank "mint chip swirl ".toList ∧
      (words isBlank "mint chip swirl ".toList).length = 3 := by decide +kernel
  have hindented : ¬ Trimmed isBlank " mint chip".toList := by decide +kernel
  have hfour : Trimmed isBlank "mint chip swirl cone".toList ∧
      (words isBlank "mint chip swirl cone".toList).length = 4 := by decide +kernel
  rw [hpattern] at hbound hp
  refine ⟨⟨hop, hvalue, by decide⟩, hbound, p, hp, ?_, fun h => ?_, fun h => ?_, fun h => ?_⟩
  · exact ((hfound _ _).1 hthree.1).2 (by rw [hthree.2]; decide)
  · have hfewer := (((hfound _ _).2 hpadded.1).1 h).2
    rw [hpadded.2] at hfewer
    exact absurd hfewer (by decide)
  · exact absurd ((((hfound _ _).2 hindented).1 h).1 ' ' rfl) (by decide)
  · have hatMost := ((hfound _ _).1 hfour.1).1 h
    rw [hfour.2] at hatMost
    exact absurd hatMost (by decide)

/-- A text of two words without blanks at its ends is found by the pattern for fewer than two. -/
theorem fewer_finds_as_many :
    let fewer : Operator := { name := "fewer than __ words", type := .stringLength }
    let pattern := "^(\\S+\\s+)\x7b0,1\x7d\\S*$"
    let s := "mint chip".toList
    ofWordCount "flavour" fewer (.int 2) = .ok (compare "flavour" "~" (.text pattern)) ∧
    Trimmed isBlank s ∧ (words isBlank s).length = 2 ∧
    ∃ p, Pattern.ofText? pattern = some p ∧
      ¬ (p.Found isBlank s ↔ (words isBlank s).length < 2) := by
  intro fewer pattern s
  have hop : startsWith fewer "fewer than" = true := by decide +kernel +zetaReduce
  have hpattern : patternFewerThan 2 = pattern := by decide +kernel +zetaReduce
  have hread : Pattern.ofText? pattern = some (Pattern.shortText 1) := by
    rw [← hpattern]
    exact Pattern.ofText?_patternFewerThan (by decide)
  have htrimmed : Trimmed isBlank s := by decide +kernel +zetaReduce
  have hwords : (words isBlank s).length = 2 := by decide +kernel +zetaReduce
  have hfound : (Pattern.shortText 1).Found isBlank s :=
    (Pattern.found_shortText_iff_of_trimmed htrimmed).2 (Nat.le_of_eq hwords)
  refine ⟨?_, htrimmed, hwords, _, hread, fun h => ?_⟩
  · rw [← hpattern]
    exact ofWordCount_of_fewer "flavour" hop rfl (by decide)
  · exact absurd (h.1 hfound) (by rw [hwords]; decide)

/-- The pattern for more words than a number, which counts as zero if it is negative, is found in
the texts that do not end with a blank and have more words. -/
theorem more_finds_more (column : String) (hop : startsWith op "more than" = true)
    (hvalue : wordCount? value = some count) :
    ofWordCount column op value =
      .ok (compare column "~" (.text (patternMoreThan count))) ∧
    ∃ p, Pattern.ofText? (patternMoreThan count) = some p ∧ ∀ blank s,
      p.Found blank s ↔
        (∀ c ∈ s.getLast?, blank c = false) ∧ max count 0 < ((words blank s).length : Int) := by
  refine ⟨ofWordCount_of_more column hop hvalue, _, Pattern.ofText?_patternMoreThan count,
    fun blank s => ?_⟩
  rw [Pattern.found_longEnd_iff]
  exact and_congr_right' (by omega)

/-- The pattern for more than two words is found in three words with blanks before them, and neither
in two nor in three with a blank behind them. -/
theorem more_finds_more_than_two :
    let more : Operator := { name := "More than __ WORDS ", type := .stringLength }
    let pattern := "(\\S+\\s+)\x7b2\x7d\\S+$"
    (startsWith more "more than" = true ∧ wordCount? (.float 2.9) = some 2) ∧
    ofWordCount "flavour" more (.float 2.9) = .ok (compare "flavour" "~" (.text pattern)) ∧
    ∃ p, Pattern.ofText? pattern = some p ∧
      p.Found isBlank "  mint\tchip swirl".toList ∧ ¬ p.Found isBlank "mint chip".toList ∧
        ¬ p.Found isBlank "mint chip swirl ".toList := by
  intro more pattern
  have hop : startsWith more "more than" = true := by decide +kernel +zetaReduce
  have hvalue : wordCount? (.float 2.9) = some 2 := by decide +kernel
  have hpattern : patternMoreThan 2 = pattern := by decide +kernel +zetaReduce
  obtain ⟨hbound, p, hp, hfound⟩ := more_finds_more "flavour" hop hvalue
  have hthree : (words isBlank "  mint\tchip swirl".toList).length = 3 := by decide +kernel
  have htwo : (words isBlank "mint chip".toList).length = 2 := by decide +kernel
  rw [hpattern] at hbound hp
  refine ⟨⟨hop, hvalue⟩, hbound, p, hp, ?_, fun h => ?_, fun h => ?_⟩
  · have hend : ∀ c ∈ "  mint\tchip swirl".toList.getLast?, isBlank c = false := by
      rintro c ⟨⟩
      decide +kernel
    exact (hfound _ _).2 ⟨hend, by rw [hthree]; decide⟩
  · have hmore := ((hfound _ _).1 h).2
    rw [htwo] at hmore
    exact absurd hmore (by decide)
  · exact absurd (((hfound _ _).1 h).1 ' ' rfl) (by decide)

end Condition

end FilterSql
