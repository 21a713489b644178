import Mathlib.Data.List.Basic

/-!
# Patterns

The patterns of PostgreSQL's `~`, as far as the conditions on words need them: blank and visible
characters, the two ends of the text, pieces one after another, and pieces repeated between a least
and a greatest number of times. Which characters are blank depends on the locale of the database, so
the meaning of a pattern is taken over every class of them.

A pattern matches a part of a text between what stands before it and what stands after it. It is
found in a text if it matches some part of it.

## Main definitions

* `FilterSql.Pattern`: the patterns.
* `FilterSql.Pattern.Matches`: the parts of a text that a pattern matches.
* `FilterSql.Pattern.Found`: the texts that a pattern is found in.

## Main results

* `FilterSql.Pattern.matches_run_iff`: a repeated character matches the runs of its class.
* `FilterSql.Pattern.iterated_iff`: a repeated piece that does not look around itself matches the
  parts that it matches, one after another.
-/

namespace FilterSql

/-- A pattern of texts. -/
inductive Pattern where
  /-- The start of the text. -/
  | start
  /-- The end of the text. -/
  | finish
  /-- A blank character, or one that is not blank. -/
  | character (isBlank : Bool)
  /-- Nothing. -/
  | empty
  /-- One pattern and then another one. -/
  | followedBy (p q : Pattern)
  /-- A pattern a number of times, which may have no upper limit. -/
  | repeated (p : Pattern) (least : Nat) (most : Option Nat)

namespace Pattern

/-- Patterns one after another. -/
def sequence (ps : List Pattern) : Pattern :=
  ps.foldr followedBy empty

/-- A run of characters of one class. -/
def run (isBlank : Bool) (least : Nat) : Pattern :=
  repeated (character isBlank) least none

/-! ### Meaning -/

/-- A relation between a part of a text and what stands before and after it holds of a number of
parts, one after another. -/
def Iterated (M : List Char → List Char → List Char → Prop) :
    Nat → List Char → List Char → List Char → Prop
  | 0, _, s, _ => s = []
  | n + 1, before, s, after =>
    ∃ first rest, s = first ++ rest ∧ M before first (rest ++ after) ∧
      Iterated M n (before ++ first) rest after

/-- A pattern matches a part of a text between what stands before it and what stands after it. -/
def Matches (blank : Char → Bool) : Pattern → List Char → List Char → List Char → Prop
  | start, before, s, _ => before = [] ∧ s = []
  | finish, _, s, after => s = [] ∧ after = []
  | character isBlank, _, s, _ => ∃ c, s = [c] ∧ blank c = isBlank
  | empty, _, s, _ => s = []
  | followedBy p q, before, s, after =>
    ∃ first rest, s = first ++ rest ∧ Matches blank p before first (rest ++ after) ∧
      Matches blank q (before ++ first) rest after
  | repeated p least most, before, s, after =>
    ∃ n, least ≤ n ∧ (∀ m ∈ most, n ≤ m) ∧ Iterated (Matches blank p) n before s after

/-- A pattern matches some part of a text. -/
def Found (blank : Char → Bool) (p : Pattern) (text : List Char) : Prop :=
  ∃ before s after, text = before ++ s ++ after ∧ p.Matches blank before s after

variable {blank : Char → Bool} {p : Pattern} {ps : List Pattern} {before s after : List Char}

/-! ### Sequences -/

theorem matches_sequence_cons :
    (sequence (p :: ps)).Matches blank before s after ↔
      ∃ first rest, s = first ++ rest ∧ p.Matches blank before first (rest ++ after) ∧
        (sequence ps).Matches blank (before ++ first) rest after :=
  Iff.rfl

theorem matches_sequence_singleton :
    (sequence [p]).Matches blank before s after ↔ p.Matches blank before s after := by
  constructor
  · rintro ⟨first, -, rfl, hfirst, rfl⟩
    rwa [List.append_nil]
  · exact fun hs => ⟨s, [], (List.append_nil s).symm, hs, rfl⟩

/-- What starts with the start of the text has nothing before it. -/
theorem matches_start_cons :
    (sequence (start :: ps)).Matches blank before s after ↔
      before = [] ∧ (sequence ps).Matches blank [] s after := by
  constructor
  · rintro ⟨-, rest, rfl, ⟨rfl, rfl⟩, hrest⟩
    exact ⟨rfl, hrest⟩
  · rintro ⟨rfl, hs⟩
    exact ⟨[], s, rfl, ⟨rfl, rfl⟩, hs⟩

/-- What ends with the end of the text has nothing after it. -/
theorem matches_finish :
    (sequence [p, finish]).Matches blank before s after ↔
      p.Matches blank before s [] ∧ after = [] := by
  constructor
  · rintro ⟨first, rest, rfl, hfirst, hrest⟩
    obtain ⟨rfl, rfl⟩ := matches_sequence_singleton.1 hrest
    exact ⟨by rwa [List.append_nil], rfl⟩
  · rintro ⟨hs, rfl⟩
    exact ⟨s, [], (List.append_nil s).symm, hs, matches_sequence_singleton.2 ⟨rfl, rfl⟩⟩

/-! ### Repetition -/

/-- Of a relation that does not look around, a number of parts one after another are just that. -/
theorem iterated_iff {M : List Char → List Char → List Char → Prop} {L : List Char → Prop}
    (hM : ∀ before s after, M before s after ↔ L s) {n : Nat} :
    Iterated M n before s after ↔
      ∃ parts : List (List Char), parts.length = n ∧ (∀ t ∈ parts, L t) ∧ s = parts.flatten := by
  induction n generalizing before s with
  | zero =>
    constructor
    · rintro rfl
      exact ⟨[], rfl, by simp, rfl⟩
    · rintro ⟨parts, hlength, -, rfl⟩
      rw [List.length_eq_zero_iff.1 hlength]
      rfl
  | succ n ih =>
    constructor
    · rintro ⟨first, rest, rfl, hfirst, hrest⟩
      obtain ⟨parts, hlength, hparts, rfl⟩ := ih.1 hrest
      refine ⟨first :: parts, congrArg Nat.succ hlength, ?_, rfl⟩
      exact List.forall_mem_cons.2 ⟨(hM _ _ _).1 hfirst, hparts⟩
    · rintro ⟨parts, hlength, hparts, rfl⟩
      obtain ⟨first, rest, rfl⟩ := List.exists_cons_of_length_eq_add_one hlength
      obtain ⟨hfirst, hrest⟩ := List.forall_mem_cons.1 hparts
      exact ⟨first, rest.flatten, rfl, (hM _ _ _).2 hfirst,
        ih.2 ⟨rest, Nat.succ.inj hlength, hrest, rfl⟩⟩

theorem iterated_character_iff {isBlank : Bool} {n : Nat} :
    Iterated ((character isBlank).Matches blank) n before s after ↔
      s.length = n ∧ ∀ c ∈ s, blank c = isBlank := by
  induction n generalizing before s with
  | zero =>
    rw [List.length_eq_zero_iff]
    exact ⟨fun hs => ⟨hs, hs ▸ List.forall_mem_nil _⟩, And.left⟩
  | succ n ih =>
    constructor
    · rintro ⟨-, rest, rfl, ⟨c, rfl, hc⟩, hrest⟩
      obtain ⟨hlength, hrest⟩ := ih.1 hrest
      exact ⟨congrArg Nat.succ hlength, List.forall_mem_cons.2 ⟨hc, hrest⟩⟩
    · rintro ⟨hlength, hs⟩
      obtain ⟨c, rest, rfl⟩ := List.exists_cons_of_length_eq_add_one hlength
      obtain ⟨hc, hrest⟩ := List.forall_mem_cons.1 hs
      exact ⟨[c], rest, rfl, ⟨c, rfl, hc⟩, ih.2 ⟨Nat.succ.inj hlength, hrest⟩⟩

/-- A repeated character matches the runs of its class that are long enough. -/
theorem matches_run_iff {isBlank : Bool} {least : Nat} :
    (run isBlank least).Matches blank before s after ↔
      least ≤ s.length ∧ ∀ c ∈ s, blank c = isBlank := by
  constructor
  · rintro ⟨n, hleast, -, hiterated⟩
    obtain ⟨rfl, hs⟩ := iterated_character_iff.1 hiterated
    exact ⟨hleast, hs⟩
  · rintro ⟨hleast, hs⟩
    exact ⟨s.length, hleast, nofun, iterated_character_iff.2 ⟨rfl, hs⟩⟩

end Pattern

end FilterSql
