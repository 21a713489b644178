import Mathlib.Data.List.Basic

/-!
# Words and strides

The words of a text are its longest runs of characters that are not blank. A stride is a word with
the blanks behind it. A text that does not start with a blank consists of strides and a last word,
which is missing if the text is empty or ends with a blank. So the words can be counted by strides.

## Main definitions

* `FilterSql.words`: the words of a text.
* `FilterSql.Trimmed`: the texts without blanks at their ends.
* `FilterSql.Stride`, `FilterSql.Paced`: a stride, and the strides and the last word of a text.

## Main results

* `FilterSql.exists_paced`: what does not start with a blank has strides and a last word.
* `FilterSql.Paced.length_words`: there is one word for each stride, and the last one.
* `FilterSql.Paced.trimmed`, `FilterSql.Paced.eq_nil_of_getLast?`: what the last word has to do with
  blanks at the ends.
* `FilterSql.length_words_le_append`: an end of a text has no more words than the text.
-/

namespace FilterSql

variable {blank : Char → Bool} {s t v w : List Char} {c : Char}

/-! ### Words -/

/-- The words of a text are what is left between its blanks. -/
def words (blank : Char → Bool) (s : List Char) : List (List Char) :=
  (s.splitOnP blank).filter (!·.isEmpty)

/-- A text has no blanks at its ends. -/
def Trimmed (blank : Char → Bool) (s : List Char) : Prop :=
  (∀ c ∈ s.head?, blank c = false) ∧ ∀ c ∈ s.getLast?, blank c = false

instance (blank : Char → Bool) (s : List Char) : Decidable (Trimmed blank s) :=
  decidable_of_iff (s.head?.all (!blank ·) = true ∧ s.getLast?.all (!blank ·) = true)
    (by simp [Trimmed, Option.all_eq_true])

theorem words_append_cons (s t : List Char) (hc : blank c = true) :
    words blank (s ++ c :: t) = words blank s ++ words blank t := by
  rw [words, List.splitOnP_append_cons _ _ hc, List.filter_append, words, words]

@[simp] theorem words_nil : words blank [] = [] := by
  rw [words, List.splitOnP_nil]
  rfl

theorem words_of_visible (hv : ∀ c ∈ v, blank c = false) (hne : v ≠ []) : words blank v = [v] := by
  rw [words, List.splitOnP_eq_singleton hv]
  exact List.filter_eq_self.2 (by simpa using hne)

theorem length_words_le_one (hv : ∀ c ∈ v, blank c = false) : (words blank v).length ≤ 1 := by
  cases v with
  | nil => simp
  | cons c v =>
    rw [words_of_visible hv (List.cons_ne_nil c v)]
    exact Nat.le_refl 1

/-- Blanks at the start of a text belong to no word. -/
theorem words_blanks_append (hw : ∀ c ∈ w, blank c = true) :
    words blank (w ++ s) = words blank s := by
  induction w with
  | nil => rfl
  | cons c w ih =>
    obtain ⟨hc, hw⟩ := List.forall_mem_cons.1 hw
    calc words blank (c :: w ++ s) = words blank [] ++ words blank (w ++ s) :=
          words_append_cons [] _ hc
      _ = words blank s := by rw [words_nil, List.nil_append, ih hw]

/-- A character in front of a text takes none of its words away. -/
theorem length_words_le_cons (c : Char) (s : List Char) :
    (words blank s).length ≤ (words blank (c :: s)).length := by
  obtain ⟨v, vs, hsplit⟩ := List.exists_cons_of_ne_nil (List.splitOnP_ne_nil blank s)
  rw [words, words, List.splitOnP_cons_eq_if_modifyHead, hsplit]
  split
  case isTrue => exact Nat.le_refl _
  case isFalse =>
    -- The character goes to the first piece, which is a word afterwards.
    rw [List.modifyHead_cons, List.filter_cons, List.filter_cons_of_pos (by simp)]
    split
    · exact Nat.le_refl _
    · exact Nat.le_succ _

/-- An end of a text has no more words than the text. -/
theorem length_words_le_append (s t : List Char) :
    (words blank t).length ≤ (words blank (s ++ t)).length := by
  induction s with
  | nil => exact Nat.le_refl _
  | cons c s ih => exact Nat.le_trans ih (length_words_le_cons c (s ++ t))

/-! ### Strides -/

/-- A stride is a word and the blanks behind it. -/
def Stride (blank : Char → Bool) (s : List Char) : Prop :=
  ∃ v w, s = v ++ w ∧ (v ≠ [] ∧ ∀ c ∈ v, blank c = false) ∧ w ≠ [] ∧ ∀ c ∈ w, blank c = true

/-- A stride at the start of a text is one word of it. -/
theorem Stride.length_words_append (ht : Stride blank t) (s : List Char) :
    (words blank (t ++ s)).length = (words blank s).length + 1 := by
  obtain ⟨v, w, rfl, ⟨hne, hv⟩, hw, hblank⟩ := ht
  obtain ⟨c, w, rfl⟩ := List.exists_cons_of_ne_nil hw
  obtain ⟨hc, hw⟩ := List.forall_mem_cons.1 hblank
  rw [List.append_assoc, List.cons_append, words_append_cons _ _ hc, words_of_visible hv hne,
    words_blanks_append hw, List.length_append, List.length_singleton, Nat.add_comm]

theorem Stride.cons (hc : blank c = false) (ht : Stride blank t) : Stride blank (c :: t) := by
  obtain ⟨v, w, rfl, ⟨-, hv⟩, hw⟩ := ht
  exact ⟨c :: v, w, rfl, ⟨List.cons_ne_nil c v, List.forall_mem_cons.2 ⟨hc, hv⟩⟩, hw⟩

/-- A text consists of strides and a last word, which may be missing. -/
structure Paced (blank : Char → Bool) (s : List Char) (parts : List (List Char))
    (last : List Char) : Prop where
  eq : s = parts.flatten ++ last
  strides : ∀ t ∈ parts, Stride blank t
  visible : ∀ c ∈ last, blank c = false

namespace Paced

variable {parts : List (List Char)} {last : List Char}

theorem of_visible (hv : ∀ c ∈ v, blank c = false) : Paced blank v [] v :=
  ⟨rfl, nofun, hv⟩

theorem append (ht : Stride blank t) (h : Paced blank s parts last) :
    Paced blank (t ++ s) (t :: parts) last :=
  ⟨by rw [h.eq, List.flatten_cons, List.append_assoc],
    List.forall_mem_cons.2 ⟨ht, h.strides⟩, h.visible⟩

/-- There is one word for each stride, and the last one. -/
theorem length_words (h : Paced blank s parts last) :
    (words blank s).length = parts.length + (words blank last).length := by
  obtain ⟨rfl, hparts, -⟩ := h
  induction parts with
  | nil => exact (Nat.zero_add _).symm
  | cons t parts ih =>
    obtain ⟨ht, hparts⟩ := List.forall_mem_cons.1 hparts
    rw [List.flatten_cons, List.append_assoc, ht.length_words_append, ih hparts, List.length_cons]
    omega

/-- Neither a stride nor a word starts with a blank. -/
theorem not_blank_of_head (h : Paced blank s parts last) : ∀ c ∈ s.head?, blank c = false := by
  obtain ⟨rfl, hparts, hlast⟩ := h
  intro c hc
  cases parts with
  | nil => exact hlast c (List.mem_of_mem_head? hc)
  | cons t parts =>
    obtain ⟨v, w, rfl, ⟨hne, hv⟩, -⟩ := (List.forall_mem_cons.1 hparts).1
    rw [List.flatten_cons, List.append_assoc, List.append_assoc,
      List.head?_append_of_ne_nil _ hne] at hc
    exact hv c (List.mem_of_mem_head? hc)

/-- A text that ends with a word has no blanks at its ends. -/
theorem trimmed (h : Paced blank s parts last) (hne : last ≠ []) : Trimmed blank s := by
  refine ⟨h.not_blank_of_head, fun c hc => ?_⟩
  rw [h.eq, List.getLast?_append_of_ne_nil _ hne] at hc
  exact h.visible c (List.mem_of_getLast? hc)

/-- A text that ends with a stride has a blank at its end. -/
theorem eq_nil_of_getLast? (h : Paced blank s parts [])
    (hlast : ∀ c ∈ s.getLast?, blank c = false) : parts = [] := by
  rcases List.eq_nil_or_concat parts with hnil | ⟨init, t, rfl⟩
  · exact hnil
  · obtain ⟨v, w, rfl, -, hne, hw⟩ := h.strides t (by simp)
    have hs : s = init.flatten ++ v ++ w := by simpa using h.eq
    have hend : w.getLast hne ∈ s.getLast? := by
      rw [hs, List.getLast?_append_of_ne_nil _ hne, List.getLast?_eq_some_getLast hne]
      rfl
    have hblank := hw _ (List.getLast_mem hne)
    rw [hlast _ hend] at hblank
    cases hblank

end Paced

/-- A text is strides and a last word behind some blanks. -/
theorem exists_blanks_paced (blank : Char → Bool) (s : List Char) :
    ∃ w rest parts last, s = w ++ rest ∧ (∀ c ∈ w, blank c = true) ∧
      Paced blank rest parts last := by
  induction s with
  | nil => exact ⟨[], [], [], [], rfl, nofun, .of_visible nofun⟩
  | cons c s ih =>
    obtain ⟨w, rest, parts, last, rfl, hw, hrest⟩ := ih
    cases hc : blank c with
    | true => exact ⟨c :: w, rest, parts, last, rfl, List.forall_mem_cons.2 ⟨hc, hw⟩, hrest⟩
    | false =>
      cases w with
      | cons d w =>
        -- The character is a word of its own before the blanks.
        have hstride : Stride blank (c :: d :: w) :=
          ⟨[c], d :: w, rfl, ⟨by simp, by simpa using hc⟩, by simp, hw⟩
        exact ⟨[], _, _, last, rfl, nofun, hrest.append hstride⟩
      | nil =>
        -- The character belongs to the word that comes next.
        obtain ⟨rfl, hparts, hlast⟩ := hrest
        cases parts with
        | nil =>
          exact ⟨[], _, [], _, rfl, nofun, .of_visible (List.forall_mem_cons.2 ⟨hc, hlast⟩)⟩
        | cons t parts =>
          obtain ⟨ht, hparts⟩ := List.forall_mem_cons.1 hparts
          exact ⟨[], _, (c :: t) :: parts, last, rfl, nofun, by simp,
            List.forall_mem_cons.2 ⟨ht.cons hc, hparts⟩, hlast⟩

/-- A text that does not start with a blank is strides and a last word. -/
theorem exists_paced (hs : ∀ c ∈ s.head?, blank c = false) :
    ∃ parts last, Paced blank s parts last := by
  obtain ⟨w, rest, parts, last, rfl, hw, hrest⟩ := exists_blanks_paced blank s
  cases w with
  | nil => exact ⟨parts, last, hrest⟩
  | cons c w =>
    have hblank := (List.forall_mem_cons.1 hw).1
    rw [hs c rfl] at hblank
    cases hblank

end FilterSql
