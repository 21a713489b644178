import FilterSql.Proofs.Sql.Fragment

/-!
# Fragments without their values

A veiled fragment has a null in place of each parameter. It still tells the text, where the
placeholders stand and how many parameters there are, and it is put together from veiled parts in
the way the fragment is from its parts.

## Main definitions

* `FilterSql.Fragment.veil`: a fragment with its parameters taken away.
* `FilterSql.Fragment.surface`: the text, the text with numbered placeholders and the number of
  parameters.
* `FilterSql.Fragment.mark`: a veiled placeholder.

## Main results

* `FilterSql.Fragment.veil_append`, `FilterSql.Fragment.veil_join`,
  `FilterSql.Fragment.veil_parenthesize`: veiling goes through the compositions.
* `FilterSql.Fragment.veil_bind`, `FilterSql.Fragment.veil_bindList`: of the parameters that are
  bound only the casts are seen.
* `FilterSql.Fragment.surface_veil`: what is seen of a fragment is seen through the veil.
-/

namespace FilterSql.Fragment

/-- A fragment with a null in place of each parameter. -/
def veil (f : Fragment) : Fragment :=
  { f with params := f.params.map fun _ => .null }

/-- What a fragment shows without its parameters: its text, the text with numbered placeholders and
how many parameters it has. -/
def surface (f : Fragment) : String × String × Nat :=
  (f.text, f.numbered, f.params.length)

theorem surface_veil (f : Fragment) : f.veil.surface = f.surface := by
  simp [surface, veil, numbered]

/-! ### Compositions -/

@[simp] theorem veil_sql (text : String) : (sql text).veil = sql text := rfl

@[simp] theorem veil_append (f g : Fragment) : (f ++ g).veil = f.veil ++ g.veil := by
  apply ext
  · rfl
  · exact List.map_append
  · rfl

@[simp] theorem veil_parenthesize (f : Fragment) : f.parenthesize.veil = f.veil.parenthesize := rfl

@[simp] theorem veil_join (separator : String) (fs : List Fragment) :
    (join separator fs).veil = join separator (fs.map veil) := by
  induction fs with
  | nil => rfl
  | cons f fs ih =>
    cases fs with
    | nil => rfl
    | cons g fs =>
      rw [join_cons_cons, veil_append, veil_append, veil_sql, ih]
      rfl

@[simp] theorem veil_push (f : Fragment) (text : String) : (f.push text).veil = f.veil.push text :=
  veil_append f (sql text)

/-! ### Parameters -/

/-- A veiled placeholder, of which only the cast is seen. -/
def mark (cast : Option String) : Fragment :=
  ⟨match cast with
    | some type => "?::" ++ type
    | none => "?", [.null], [0]⟩

@[simp] theorem veil_placeholder (p : Param) : (placeholder p).veil = mark p.cast? := rfl

@[simp] theorem veil_bind (f : Fragment) (p : Param) :
    (f.bind p).veil = f.veil ++ mark p.cast? := by
  rw [bind, veil_append, veil_placeholder]

@[simp] theorem veil_bindList (f : Fragment) (ps : List Param) :
    (f.bindList ps).veil =
      f.veil ++ (join "," ((ps.map Param.cast?).map mark)).parenthesize := by
  rw [bindList, veil_append, veil_parenthesize, separated, veil_join, List.map_map, List.map_map]
  simp [Function.comp_def]

end FilterSql.Fragment
