import Mathlib.Data.List.Infix

/-!
# Search patterns

The patterns of PostgreSQL's `ILIKE`. A percent sign stands for any characters or none, an
underscore for any one character, and a backslash takes the character after it for itself. All other
characters stand for themselves in either case. Which letters are the same but for their case
depends on the locale of the database, so a pattern is taken over every folding of characters.

A text that is put in front of a percent sign is searched for as it is, unless it has one of the
three signs in it: then the pattern accepts a text in which it does not occur.

## Main definitions

* `FilterSql.Wildcard`: a piece of a pattern.
* `FilterSql.Wildcard.read?`: the pieces that a pattern writes.
* `FilterSql.Wildcard.accepts`: the texts that some pieces accept.
* `FilterSql.Wildcard.Plain`: the texts without any of the three signs.

## Main results

* `FilterSql.Wildcard.accepts_anywhere_iff`, `FilterSql.Wildcard.accepts_ahead_iff`: plain letters
  are searched for as they are.
* `FilterSql.Wildcard.exists_read?_append`: what else is accepted where a text is not plain.
-/

namespace FilterSql

/-- A piece of a search pattern. -/
inductive Wildcard where
  /-- Any characters, or none. -/
  | run
  /-- Any one character. -/
  | single
  /-- A character, in either case. -/
  | letter (c : Char)
deriving DecidableEq

namespace Wildcard

/-- The pieces that a pattern writes. There are none if it ends with a backslash that has no
character to take. -/
def read? : List Char → Option (List Wildcard)
  | [] => some []
  | ['\\'] => none
  | '\\' :: c :: rest => (read? rest).map (letter c :: ·)
  | '%' :: rest => (read? rest).map (run :: ·)
  | '_' :: rest => (read? rest).map (single :: ·)
  | c :: rest => (read? rest).map (letter c :: ·)

/-- Whether some pieces accept a text, where characters with the same folding count as the same. -/
def accepts (fold : Char → Char) : List Wildcard → List Char → Bool
  | [], s => s.isEmpty
  | run :: ps, s => s.tails.any (accepts fold ps)
  | single :: _, [] => false
  | single :: ps, _ :: s => accepts fold ps s
  | letter _ :: _, [] => false
  | letter c :: ps, d :: s => fold c == fold d && accepts fold ps s

/-- The signs of search patterns. -/
def signs : List Char := ['%', '_', '\\']

/-- A text has no sign of a pattern in it. -/
def Plain (s : List Char) : Prop :=
  ∀ c ∈ s, c ∉ signs

instance (s : List Char) : Decidable (Plain s) :=
  decidable_of_iff (s.all fun c => !signs.contains c) (by simp [Plain])

variable {fold : Char → Char} {ps : List Wildcard} {s t : List Char} {c : Char}

/-! ### What is accepted -/

theorem accepts_run_cons :
    accepts fold (run :: ps) s = true ↔ ∃ t, t <:+ s ∧ accepts fold ps t = true := by
  simp [accepts]

/-- Behind anything, every text is accepted. -/
theorem accepts_run (fold : Char → Char) (s : List Char) : accepts fold [run] s = true :=
  accepts_run_cons.2 ⟨[], List.nil_suffix, rfl⟩

/-- Letters in front of anything accept the texts that begin with them. -/
theorem accepts_ahead_iff (s : List Char) :
    accepts fold (s.map letter ++ [run]) t = true ↔ s.map fold <+: t.map fold := by
  induction s generalizing t with
  | nil => exact iff_of_true (accepts_run fold t) List.nil_prefix
  | cons c s ih =>
    cases t with
    | nil => simp [accepts]
    | cons d t =>
      rw [List.map_cons, List.cons_append, accepts, Bool.and_eq_true, beq_iff_eq, ih,
        List.map_cons, List.map_cons, List.cons_prefix_cons]

/-- Letters between anything accept the texts that they occur in. -/
theorem accepts_anywhere_iff (s : List Char) :
    accepts fold (run :: (s.map letter ++ [run])) t = true ↔ s.map fold <:+: t.map fold := by
  rw [accepts_run_cons, List.infix_iff_prefix_suffix]
  constructor
  · rintro ⟨u, hu, hs⟩
    exact ⟨u.map fold, (accepts_ahead_iff s).1 hs, hu.map fold⟩
  · rintro ⟨v, hs, hv⟩
    obtain ⟨u, hu, rfl⟩ := List.suffix_map_iff.1 hv
    exact ⟨u, hu, (accepts_ahead_iff s).2 hs⟩

/-! ### What is written -/

/-- A character that is no sign stands for itself. -/
theorem read?_cons (hc : c ∉ signs) (s : List Char) :
    read? (c :: s) = (read? s).map (letter c :: ·) := by
  simp only [signs, List.mem_cons, List.not_mem_nil, or_false, not_or] at hc
  rw [read?.eq_def]
  split <;> simp_all

/-- A plain text stands for itself. -/
theorem read?_append_of_plain (hs : Plain s) (t : List Char) :
    read? (s ++ t) = (read? t).map (s.map letter ++ ·) := by
  induction s with
  | nil => simp
  | cons c s ih =>
    obtain ⟨hc, hs⟩ := List.forall_mem_cons.1 hs
    rw [List.cons_append, read?_cons hc, ih hs, Option.map_map]
    rfl

/-! ### What is accepted beyond the text -/

/-- The shortest text that some pieces accept, with a percent sign for any one character. -/
def shortest : List Wildcard → List Char
  | [] => []
  | run :: ps => shortest ps
  | single :: ps => '%' :: shortest ps
  | letter c :: ps => c :: shortest ps

theorem accepts_shortest (fold : Char → Char) (ps : List Wildcard) :
    accepts fold ps (shortest ps) = true := by
  induction ps with
  | nil => rfl
  | cons p ps ih =>
    cases p with
    | run => exact accepts_run_cons.2 ⟨shortest ps, List.suffix_rfl, ih⟩
    | single => exact ih
    | letter c => simpa [shortest, accepts] using ih

theorem map_ne_of_length_lt (h : s.length < t.length) : s.map fold ≠ t.map fold :=
  fun hmap => h.ne (by simpa using congrArg List.length hmap)

/-- A text in front of a percent sign writes a pattern. The shortest text that it accepts is no
longer than the text itself, and is another one if the text is not plain: a percent sign and a
backslash leave a character out, unless the backslash takes the percent sign behind the text, and an
underscore has another sign in its place. -/
theorem exists_read?_append (hfold : fold '%' ≠ fold '_' ∧ fold '%' ≠ fold '\\') (s : List Char) :
    ∃ ps, read? (s ++ ['%']) = some ps ∧ (shortest ps).length ≤ s.length ∧
      ((shortest ps).map fold = s.map fold → Plain s) := by
  fun_induction read? s with
  | case1 => exact ⟨[run], rfl, Nat.le_refl 0, fun _ => List.forall_mem_nil _⟩
  | case2 => exact ⟨[letter '%'], rfl, Nat.le_refl 1, fun h => by simp [shortest, hfold.2] at h⟩
  | case3 c rest ih =>
    obtain ⟨ps, hread, hlength, -⟩ := ih
    have hread' : read? ('\\' :: c :: (rest ++ ['%'])) = some (letter c :: ps) :=
      congrArg (Option.map _) hread
    have hshort : (shortest (letter c :: ps)).length < ('\\' :: c :: rest).length :=
      Nat.succ_lt_succ (Nat.lt_succ_of_le hlength)
    exact ⟨_, hread', hshort.le, fun h => absurd h (map_ne_of_length_lt hshort)⟩
  | case4 rest ih =>
    obtain ⟨ps, hread, hlength, -⟩ := ih
    have hread' : read? ('%' :: (rest ++ ['%'])) = some (run :: ps) :=
      congrArg (Option.map _) hread
    have hshort : (shortest (run :: ps)).length < ('%' :: rest).length :=
      Nat.lt_succ_of_le hlength
    exact ⟨_, hread', hshort.le, fun h => absurd h (map_ne_of_length_lt hshort)⟩
  | case5 rest ih =>
    obtain ⟨ps, hread, hlength, -⟩ := ih
    have hread' : read? ('_' :: (rest ++ ['%'])) = some (single :: ps) :=
      congrArg (Option.map _) hread
    exact ⟨_, hread', Nat.succ_le_succ hlength, fun h => absurd (List.cons.inj h).1 hfold.1⟩
  | case6 c rest h1 h2 h3 h4 ih =>
    obtain ⟨ps, hread, hlength, hplain⟩ := ih
    have hbackslash : c ≠ '\\' := fun hc => by
      cases rest with
      | nil => exact h1 hc rfl
      | cons d rest => exact h2 d rest hc rfl
    have hc : c ∉ signs := by simpa [signs, hbackslash] using ⟨h3, h4⟩
    refine ⟨letter c :: ps, ?_, Nat.succ_le_succ hlength, fun h => ?_⟩
    · rw [List.cons_append, read?_cons hc, hread]
      rfl
    · exact List.forall_mem_cons.2 ⟨hc, hplain (List.cons.inj h).2⟩

/-! ### Literal search -/

/-- The pieces of a plain text in front of a percent sign. -/
theorem eq_of_read?_of_plain (hs : Plain s) (hread : read? (s ++ ['%']) = some ps) :
    ps = s.map letter ++ [run] := by
  rw [read?_append_of_plain hs] at hread
  exact (Option.some.inj hread).symm

/-- A text in front of a percent sign stands for the texts that begin with it, whatever the case of
their letters, just if it is plain. -/
theorem accepts_ahead_iff_plain (hfold : fold '%' ≠ fold '_' ∧ fold '%' ≠ fold '\\')
    (hread : read? (s ++ ['%']) = some ps) :
    (∀ t, accepts fold ps t = true ↔ s.map fold <+: t.map fold) ↔ Plain s := by
  constructor
  · intro h
    obtain ⟨ps', hread', hlength, hplain⟩ := exists_read?_append hfold s
    obtain rfl : ps = ps' := Option.some.inj (hread.symm.trans hread')
    have hbegins := (h (shortest ps)).1 (accepts_shortest fold ps)
    exact hplain (hbegins.eq_of_length_le (by simpa using hlength)).symm
  · intro hs t
    rw [eq_of_read?_of_plain hs hread]
    exact accepts_ahead_iff s

/-- A text between percent signs stands for the texts that it occurs in, whatever the case of their
letters, just if it is plain. -/
theorem accepts_anywhere_iff_plain (hfold : fold '%' ≠ fold '_' ∧ fold '%' ≠ fold '\\')
    (hread : read? (s ++ ['%']) = some ps) :
    (∀ t, accepts fold (run :: ps) t = true ↔ s.map fold <:+: t.map fold) ↔ Plain s := by
  constructor
  · intro h
    obtain ⟨ps', hread', hlength, hplain⟩ := exists_read?_append hfold s
    obtain rfl : ps = ps' := Option.some.inj (hread.symm.trans hread')
    have hoccurs := (h (shortest ps)).1 (accepts_shortest fold (run :: ps))
    exact hplain (hoccurs.eq_of_length_le (by simpa using hlength)).symm
  · intro hs t
    rw [eq_of_read?_of_plain hs hread]
    exact accepts_anywhere_iff s

end Wildcard

end FilterSql
