import FilterSql.Proofs.Sql.Fragment

/-!
# Arrangements of fragments

The same fragments can be put together in many ways: one after the other in any grouping, joined
with a separator, between two pieces of SQL, or by a builder that takes them one at a time. An
arrangement says how. What comes out depends only on the row of its items from left to right, which
are the fragments and the single characters of the SQL around them: two arrangements of one row have
the same text, the same parameters and the same placeholders.

## Main definitions

* `FilterSql.Fragment.Item`: a fragment, or a character of SQL.
* `FilterSql.Fragment.concat`: the items of a row one after the other.
* `FilterSql.Arrangement`: a way to put fragments together, with the fragment that comes out and the
  row of items that goes in.
* `FilterSql.Push`: what a builder is given, trusted SQL or a fragment.

## Main results

* `FilterSql.Fragment.join_append`: the join of two lists, one after the other.
* `FilterSql.Push.run_steps`: a builder puts what it is given one after the other.
* `FilterSql.Arrangement.toFragment_eq_concat`: an arrangement comes down to its row.
* `FilterSql.Arrangement.regrouping`: the laws of fragments, and arrangements of the same row.
-/

namespace FilterSql

/-! ### Rows of items -/

namespace Fragment

/-- What an arrangement is made of in the end. -/
inductive Item where
  /-- A fragment. -/
  | fragment (f : Fragment)
  /-- A character of trusted SQL. -/
  | char (c : Char)

namespace Item

/-- An item for itself. -/
def alone : Item → Fragment
  | fragment f => f
  | char c => sql (String.singleton c)

/-- The characters of trusted SQL. -/
def chars (text : String) : List Item :=
  text.toList.map char

end Item

/-- The items of a row, one after the other. -/
def concat (row : List Item) : Fragment :=
  row.foldr (fun item f => item.alone ++ f) empty

@[simp] theorem concat_nil : concat [] = empty := rfl

theorem concat_cons (item : Item) (row : List Item) :
    concat (item :: row) = item.alone ++ concat row := rfl

@[simp] theorem concat_append (row row' : List Item) :
    concat (row ++ row') = concat row ++ concat row' := by
  induction row with
  | nil => rw [List.nil_append, concat_nil, empty_append]
  | cons item row ih => rw [List.cons_append, concat_cons, concat_cons, ih, append_assoc]

/-- The characters of SQL one after the other are that SQL. -/
@[simp] theorem concat_chars (text : String) : concat (Item.chars text) = sql text := by
  have hchars (cs : List Char) : concat (cs.map .char) = sql (String.ofList cs) := by
    induction cs with
    | nil => rfl
    | cons c cs ih =>
      rw [List.map_cons, concat_cons, ih, String.ofList_cons, sql_append]
      rfl
  rw [Item.chars, hchars, String.ofList_toList]

/-! ### Joining and building -/

theorem join_cons (separator : String) (f : Fragment) {fs : List Fragment} (h : fs ≠ []) :
    join separator (f :: fs) = f ++ sql separator ++ join separator fs := by
  obtain ⟨g, gs, rfl⟩ := List.exists_cons_of_ne_nil h
  rfl

/-- The join of two lists one after the other has the separator between the joins of the two. -/
theorem join_append (separator : String) {fs gs : List Fragment} (hfs : fs ≠ []) (hgs : gs ≠ []) :
    join separator (fs ++ gs) = join separator fs ++ sql separator ++ join separator gs := by
  induction fs with
  | nil => exact absurd rfl hfs
  | cons f fs ih =>
    by_cases h : fs = []
    · rw [h, List.singleton_append, join_cons separator f hgs]
      rfl
    · have happend : fs ++ gs ≠ [] := List.append_ne_nil_of_left_ne_nil h gs
      rw [List.cons_append, join_cons separator f happend, ih h, join_cons separator f h]
      simp only [append_assoc]

/-- Rows with the characters of a separator between two make the join of what they make. -/
theorem concat_intercalate (separator : String) (rows : List (List Item)) :
    concat ((Item.chars separator).intercalate rows) = join separator (rows.map concat) := by
  induction rows with
  | nil => rfl
  | cons row rows ih =>
    cases rows with
    | nil => rw [List.intercalate_singleton]; rfl
    | cons row' rows =>
      rw [List.intercalate_cons_cons, concat_append, concat_append, concat_chars, ih]
      rfl

/-- Fragments put on another one at a time are put on it as a whole. -/
theorem foldl_append (f : Fragment) (rows : List (List Item)) :
    (rows.map concat).foldl (· ++ ·) f = f ++ concat rows.flatten := by
  induction rows generalizing f with
  | nil => exact (append_empty f).symm
  | cons row rows ih =>
    rw [List.map_cons, List.foldl_cons, ih, List.flatten_cons, concat_append, append_assoc]

end Fragment

/-- What a builder is given. -/
inductive Push where
  /-- Trusted SQL. -/
  | sql (text : String)
  /-- A fragment that is built already. -/
  | fragment (f : Fragment)

namespace Push

/-- The step of a build. -/
def step : Push → BuildStep
  | sql text => .push text
  | fragment f => .fragment f

/-- What is given, for itself. -/
def alone : Push → Fragment
  | sql text => .sql text
  | fragment f => f

theorem run_step (f : Fragment) (p : Push) : p.step.run f = .ok (f ++ p.alone) := by
  cases p <;> rfl

/-- A builder puts what it is given one after the other. -/
theorem run_steps (f : Fragment) (ps : List Push) :
    (ps.map step).foldlM BuildStep.run f = .ok ((ps.map alone).foldl (· ++ ·) f) := by
  induction ps generalizing f with
  | nil => rfl
  | cons p ps ih =>
    rw [List.map_cons, List.foldlM_cons, run_step]
    exact ih (f ++ p.alone)

end Push

/-! ### Arrangements -/

/-- A way to put fragments together. -/
inductive Arrangement where
  /-- Nothing. -/
  | empty
  /-- A fragment. -/
  | fragment (f : Fragment)
  /-- Trusted SQL. -/
  | sql (text : String)
  /-- One after the other. -/
  | append (a b : Arrangement)
  /-- Several with a separator between two. -/
  | join (separator : String) (parts : List Arrangement)
  /-- One between two pieces of SQL. -/
  | wrap (before after : String) (a : Arrangement)
  /-- One between parentheses. -/
  | parenthesize (a : Arrangement)
  /-- Several, pushed on a builder one at a time. -/
  | built (parts : List Arrangement)

namespace Arrangement

open Fragment (Item)

mutual

/-- The fragment that comes out. -/
def toFragment : Arrangement → Fragment
  | empty => .empty
  | fragment f => f
  | sql text => .sql text
  | append a b => a.toFragment ++ b.toFragment
  | join separator parts => Fragment.join separator (toFragments parts)
  | wrap before after a => a.toFragment.wrap before after
  | parenthesize a => a.toFragment.parenthesize
  | built parts => (toFragments parts).foldl (· ++ ·) .empty
termination_by structural a => a

/-- The fragments that come out of several. -/
def toFragments : List Arrangement → List Fragment
  | [] => []
  | a :: parts => a.toFragment :: toFragments parts
termination_by structural parts => parts

end

mutual

/-- The row of items that goes in, from left to right. -/
def items : Arrangement → List Item
  | empty => []
  | fragment f => [.fragment f]
  | sql text => Item.chars text
  | append a b => a.items ++ b.items
  | join separator parts => (Item.chars separator).intercalate (rows parts)
  | wrap before after a => Item.chars before ++ a.items ++ Item.chars after
  | parenthesize a => Item.chars "(" ++ a.items ++ Item.chars ")"
  | built parts => (rows parts).flatten
termination_by structural a => a

/-- The rows that go into several. -/
def rows : List Arrangement → List (List Item)
  | [] => []
  | a :: parts => a.items :: rows parts
termination_by structural parts => parts

end

mutual

/-- What comes out of an arrangement are its items, one after the other. -/
theorem toFragment_eq_concat : (a : Arrangement) → a.toFragment = Fragment.concat a.items
  | empty => rfl
  | fragment f => (Fragment.append_empty f).symm
  | sql text => (Fragment.concat_chars text).symm
  | append a b => by
    rw [toFragment, items, toFragment_eq_concat a, toFragment_eq_concat b,
      Fragment.concat_append]
  | join separator parts => by
    rw [toFragment, items, toFragments_eq_map parts, Fragment.concat_intercalate]
  | wrap before after a => by
    rw [toFragment, items, toFragment_eq_concat a, Fragment.wrap_eq_append]
    simp only [Fragment.concat_append, Fragment.concat_chars]
  | parenthesize a => by
    rw [toFragment, items, toFragment_eq_concat a, Fragment.parenthesize_eq_append]
    simp only [Fragment.concat_append, Fragment.concat_chars]
  | built parts => by
    rw [toFragment, items, toFragments_eq_map parts, Fragment.foldl_append,
      Fragment.empty_append]

theorem toFragments_eq_map : (parts : List Arrangement) →
    toFragments parts = (rows parts).map Fragment.concat
  | [] => rfl
  | a :: parts => by
    rw [toFragments, rows, List.map_cons, toFragment_eq_concat a, toFragments_eq_map parts]

end

/-- Fragments one after the other can be grouped in any way, and a fragment without text makes no
difference on either side. The join of two lists has the separator between their joins, a fragment
between two pieces of SQL has these before and after it, and a builder puts the SQL and the
fragments that it is given one after the other. So however fragments and SQL are put together, the
row of them from left to right says what comes out: its text, its parameters and its
placeholders. -/
theorem regrouping :
    (∀ f g h : Fragment, f ++ g ++ h = f ++ (g ++ h)) ∧
    (∀ f : Fragment, .empty ++ f = f ∧ f ++ .empty = f) ∧
    (∀ separator (fs gs : List Fragment), fs ≠ [] → gs ≠ [] →
      Fragment.join separator (fs ++ gs) =
        Fragment.join separator fs ++ .sql separator ++ Fragment.join separator gs) ∧
    (∀ before after (f : Fragment), f.wrap before after = .sql before ++ f ++ .sql after) ∧
    (∀ f (ps : List Push),
      (ps.map Push.step).foldlM BuildStep.run f = .ok ((ps.map Push.alone).foldl (· ++ ·) f)) ∧
    ∀ a b : Arrangement, a.items = b.items → a.toFragment = b.toFragment := by
  refine ⟨Fragment.append_assoc, fun f => ⟨f.empty_append, f.append_empty⟩,
    fun separator fs gs hfs hgs => Fragment.join_append separator hfs hgs,
    Fragment.wrap_eq_append, Push.run_steps, fun a b h => ?_⟩
  rw [toFragment_eq_concat, toFragment_eq_concat, h]

/-- Of a fragment behind a letter of two bytes, one without text and a question mark that is no
placeholder, a join within a pair of parentheses and a builder make the same. -/
theorem regrouping_past_empty_fragment :
    let f : Fragment := ⟨"é = ?::int", [.int 7], [5]⟩
    let g : Fragment := ⟨"?", [.text "?"], [0]⟩
    let joined : Arrangement :=
      .parenthesize (.join " ? " [.fragment f, .empty, .wrap "" "" (.fragment g)])
    let built : Arrangement :=
      .built [.sql "(", .fragment f, .sql " ?", .sql "  ? ", .append (.fragment g) (.sql ")")]
    ([f] ≠ [] ∧ [.empty, g] ≠ [] ∧
      Fragment.join " ? " ([f] ++ [.empty, g]) =
        Fragment.join " ? " [f] ++ .sql " ? " ++ Fragment.join " ? " [.empty, g]) ∧
    joined.items = built.items ∧ joined.toFragment = built.toFragment ∧
    built.toFragment = ⟨"(é = ?::int ?  ? ?)", [.int 7, .text "?"], [6, 18]⟩ := by
  intro f g joined built
  obtain ⟨-, -, hjoin, -, -, hitems⟩ := regrouping
  have hne : [f] ≠ [] := List.cons_ne_nil f []
  have hne' : [.empty, g] ≠ [] := List.cons_ne_nil _ _
  have hsame : joined.items = built.items := rfl
  exact ⟨⟨hne, hne', hjoin " ? " [f] [.empty, g] hne hne'⟩, hsame, hitems joined built hsame, rfl⟩

end Arrangement

end FilterSql
