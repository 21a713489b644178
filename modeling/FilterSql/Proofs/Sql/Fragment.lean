import FilterSql.Sql.Builder

/-!
# The algebra of fragments

It does not matter how fragments one after the other are grouped, and the other compositions
come down to that: a fragment between two pieces of SQL has them before and after it, and joined
fragments have the separator between two.

## Main results

* `FilterSql.Fragment.append_assoc`: three fragments one after the other.
* `FilterSql.Fragment.wrap_eq_append`, `FilterSql.Fragment.parenthesize_eq_append`: a fragment
  between two pieces of SQL.
-/

namespace FilterSql.Fragment

theorem ext {f g : Fragment} (text : f.text = g.text) (params : f.params = g.params)
    (placeholders : f.placeholders = g.placeholders) : f = g := by
  cases f
  cases g
  simp_all

@[simp] theorem text_empty : empty.text = "" := rfl

@[simp] theorem params_empty : empty.params = [] := rfl

@[simp] theorem text_sql (text : String) : (sql text).text = text := rfl

@[simp] theorem params_sql (text : String) : (sql text).params = [] := rfl

@[simp] theorem placeholders_sql (text : String) : (sql text).placeholders = [] := rfl

theorem append_assoc (f g h : Fragment) : f ++ g ++ h = f ++ (g ++ h) := by
  apply ext
  · simp [String.append_assoc]
  · simp
  · simp [String.utf8ByteSize_append, Nat.add_assoc, Function.comp_def]

@[simp] theorem append_empty (f : Fragment) : f ++ empty = f := by
  apply ext <;> simp [empty]

@[simp] theorem empty_append (f : Fragment) : empty ++ f = f := by
  apply ext <;> simp [empty]

theorem sql_append (s t : String) : sql (s ++ t) = sql s ++ sql t := by
  apply ext <;> simp

theorem push_append (f : Fragment) (s t : String) : f.push (s ++ t) = (f.push s).push t := by
  simp [push, sql_append, append_assoc]

theorem wrap_eq_append (before after : String) (f : Fragment) :
    f.wrap before after = sql before ++ f ++ sql after := by
  apply ext <;> simp [sql]

theorem parenthesize_eq_append (f : Fragment) : f.parenthesize = sql "(" ++ f ++ sql ")" :=
  wrap_eq_append "(" ")" f

@[simp] theorem wrap_empty (f : Fragment) : f.wrap "" "" = f := by
  apply ext <;> simp

theorem join_cons_cons (separator : String) (f g : Fragment) (fs : List Fragment) :
    join separator (f :: g :: fs) = f ++ sql separator ++ join separator (g :: fs) := rfl

/-- The text of a placeholder is a question mark, with a cast behind it if there is one. -/
theorem text_placeholder (p : Param) :
    (placeholder p).text = "?" ++ p.cast?.elim "" ("::" ++ ·) := by
  rw [placeholder]
  cases p.cast? with
  | none => rfl
  | some type =>
    rw [Option.elim_some, ← String.append_assoc]
    rfl

theorem text_bind (f : Fragment) (p : Param) :
    (f.bind p).text = f.text ++ "?" ++ p.cast?.elim "" ("::" ++ ·) := by
  rw [bind, text_append, text_placeholder, String.append_assoc]

@[simp] theorem params_push (f : Fragment) (text : String) : (f.push text).params = f.params :=
  List.append_nil f.params

@[simp] theorem params_bind (f : Fragment) (p : Param) : (f.bind p).params = f.params ++ [p] := rfl

theorem params_separated (separator : String) (ps : List Param) :
    (separated separator "" "" ps).params = ps := by
  rw [separated]
  induction ps with
  | nil => rfl
  | cons p ps ih =>
    cases ps with
    | nil => rfl
    | cons q qs =>
      rw [List.map_cons] at ih
      rw [List.map_cons, List.map_cons, join_cons_cons, params_append, params_append, ih]
      rfl

@[simp] theorem params_bindList (f : Fragment) (ps : List Param) :
    (f.bindList ps).params = f.params ++ ps :=
  congrArg (f.params ++ ·) (params_separated "," ps)

end FilterSql.Fragment
