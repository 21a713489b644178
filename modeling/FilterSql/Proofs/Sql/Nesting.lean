import Mathlib.Data.List.Infix
import FilterSql.Sql.Template

/-!
# Quotes and parentheses in SQL

A scan of SQL from left to right keeps the quote that is open, as the scan of a template does, and
the number of parentheses that are open outside quotes. Texts that end outside quotes and close just
the parentheses they have opened can be put one after the other and between parentheses.

## Main definitions

* `FilterSql.Template.openQuote`: the quote that is open after some characters.
* `FilterSql.Nesting.depth`: the parentheses outside quotes that some characters leave open.
* `FilterSql.Nesting.Balanced`: the texts that close what they open and nothing else.
* `FilterSql.Nesting.Enclosed`: the texts that one pair of parentheses is around.
* `FilterSql.Nesting.SameParentheses`: two places with the same parentheses around them.

## Main results

* `FilterSql.Nesting.depth_append`: the depth of two texts one after the other.
* `FilterSql.Nesting.Balanced.append`, `FilterSql.Nesting.Balanced.enclosed`: what keeps texts
  balanced.
-/

namespace FilterSql

/-! ### Quotes -/

namespace Template

/-- The quote that is open after some characters, given the one that is open before them. -/
def openQuote (quote : Option Char) (cs : List Char) : Option Char :=
  cs.foldl quoteAfter quote

@[simp] theorem openQuote_nil (quote : Option Char) : openQuote quote [] = quote := rfl

@[simp] theorem openQuote_cons (quote : Option Char) (c : Char) (cs : List Char) :
    openQuote quote (c :: cs) = openQuote (quoteAfter quote c) cs := rfl

@[simp] theorem openQuote_append (quote : Option Char) (cs ds : List Char) :
    openQuote quote (cs ++ ds) = openQuote (openQuote quote cs) ds :=
  List.foldl_append

end Template

/-! ### Parentheses -/

namespace Nesting

open Template

/-- What a character adds to the number of open parentheses, given the quote that is open. -/
def weight (quote : Option Char) (c : Char) : Int :=
  if quote.isSome then 0 else if c = '(' then 1 else if c = ')' then -1 else 0

/-- The number of parentheses that some characters open outside quotes, less the number that they
close, given the quote that is open before them. -/
def depth (quote : Option Char) : List Char → Int
  | [] => 0
  | c :: cs => weight quote c + depth (quoteAfter quote c) cs

@[simp] theorem depth_nil (quote : Option Char) : depth quote [] = 0 := rfl

@[simp] theorem depth_cons (quote : Option Char) (c : Char) (cs : List Char) :
    depth quote (c :: cs) = weight quote c + depth (quoteAfter quote c) cs := rfl

theorem depth_append (quote : Option Char) (cs ds : List Char) :
    depth quote (cs ++ ds) = depth quote cs + depth (openQuote quote cs) ds := by
  induction cs generalizing quote with
  | nil => simp
  | cons c cs ih => rw [List.cons_append, depth_cons, ih, depth_cons, openQuote_cons, Int.add_assoc]

/-- Characters that end outside quotes, close no parenthesis they have not opened, and leave none
open. -/
structure Balanced (cs : List Char) : Prop where
  /-- They end outside quotes. -/
  quote : openQuote none cs = none
  /-- As many parentheses are closed as are opened. -/
  depth_eq : depth none cs = 0
  /-- No parenthesis is closed before it is opened. -/
  nonneg : ∀ before after, before ++ after = cs → 0 ≤ depth none before

/-- Characters that one pair of parentheses is around: every place strictly between its first and
its last character lies inside this pair. -/
structure Enclosed (cs : List Char) : Prop where
  /-- They end outside quotes. -/
  quote : openQuote none cs = none
  /-- The first character opens a parenthesis and the last one closes one. -/
  ends : ∃ inner, '(' :: inner ++ [')'] = cs
  /-- No parenthesis is left open at the end. -/
  depth_eq : depth none cs = 0
  /-- A parenthesis is open everywhere in between. -/
  inside : ∀ before after, before ++ after = cs → before ≠ [] → after ≠ [] → 1 ≤ depth none before

/-- The places before and after a stretch of text, which follows some other text, have the same
parentheses around them: as many are open at both, and none of these is closed in between. -/
def SameParentheses (before stretch : List Char) : Prop :=
  depth none (before ++ stretch) = depth none before ∧
    ∀ cs ds, cs ++ ds = stretch → depth none before ≤ depth none (before ++ cs)

theorem balanced_iff_inits {cs : List Char} :
    Balanced cs ↔ openQuote none cs = none ∧ depth none cs = 0 ∧
      ∀ before ∈ cs.inits, 0 ≤ depth none before := by
  simp only [List.mem_inits]
  constructor
  · intro h
    refine ⟨h.quote, h.depth_eq, ?_⟩
    rintro before ⟨after, h'⟩
    exact h.nonneg before after h'
  · rintro ⟨hquote, hdepth, hnonneg⟩
    exact ⟨hquote, hdepth, fun before after h => hnonneg before ⟨after, h⟩⟩

instance (cs : List Char) : Decidable (Balanced cs) :=
  decidable_of_iff _ balanced_iff_inits.symm

namespace Balanced

variable {cs ds : List Char}

theorem nil : Balanced [] := by
  decide

theorem append (hcs : Balanced cs) (hds : Balanced ds) : Balanced (cs ++ ds) where
  quote := by rw [openQuote_append, hcs.quote, hds.quote]
  depth_eq := by rw [depth_append, hcs.quote, hcs.depth_eq, hds.depth_eq, Int.add_zero]
  nonneg before after h := by
    rcases List.append_eq_append_iff.1 h with ⟨rest, rfl, -⟩ | ⟨first, rfl, rfl⟩
    · exact hcs.nonneg before rest rfl
    · rw [depth_append, hcs.quote, hcs.depth_eq, Int.zero_add]
      exact hds.nonneg first after rfl

/-- Balanced characters between parentheses have one pair around them. -/
theorem enclosed (h : Balanced cs) : Enclosed ('(' :: cs ++ [')']) where
  quote := by simp [quoteAfter, isQuote, h.quote]
  ends := ⟨cs, rfl⟩
  depth_eq := by simp [depth_append, weight, quoteAfter, isQuote, h.quote, h.depth_eq]
  inside before after hsplit hbefore hafter := by
    obtain ⟨c, before, rfl⟩ := List.exists_cons_of_ne_nil hbefore
    obtain ⟨after, d, rfl⟩ := List.eq_nil_or_concat after |>.resolve_left hafter
    have hcs : c = '(' ∧ before ++ after = cs := by
      rw [List.concat_eq_append, List.cons_append, ← List.append_assoc, List.cons_append] at hsplit
      obtain ⟨hc, hrest⟩ := List.cons.inj hsplit
      exact ⟨hc, (List.append_inj' hrest rfl).1⟩
    obtain ⟨rfl, hcs⟩ := hcs
    have hnonneg := h.nonneg before after hcs
    simp [weight, quoteAfter, isQuote]
    omega

end Balanced

theorem Enclosed.balanced {cs : List Char} (h : Enclosed cs) : Balanced cs where
  quote := h.quote
  depth_eq := h.depth_eq
  nonneg before after hsplit := by
    by_cases hbefore : before = []
    · simp [hbefore]
    · by_cases hafter : after = []
      · obtain rfl : before = cs := by simpa [hafter] using hsplit
        exact Int.le_of_eq h.depth_eq.symm
      · have hinside := h.inside before after hsplit hbefore hafter
        omega

end Nesting

end FilterSql
