import FilterSql.Proofs.Sql.Template
import Mathlib.Data.List.Forall2

/-!
# Programs over fragments

A program makes fragments one after another: from templates, out of fragments made before, and by
the steps of a builder, which starts anew once its fragment is taken. The same program can be run
over lists of tokens, where every step only puts lists one after another. Each fragment that a
program makes shows the tokens that it makes in its place, so no step can let the text, the
parameters and the placeholders drift apart.

## Main definitions

* `FilterSql.Operations`: the operations that steps are made of, over fragments and over tokens.
* `FilterSql.Instruction`, `FilterSql.Instruction.run`: a step of a program.
* `FilterSql.Workspace`, `FilterSql.Program.run`: what is made so far, and the run of a program.
* `FilterSql.Operations.Hom`: a map that respects the operations.

## Main results

* `FilterSql.Operations.hom_fragmentOf`: the fragment of tokens respects every operation.
* `FilterSql.Program.run_map`: a map that respects the operations respects programs.
* `FilterSql.Program.run_shows`: fragments show the tokens that the same program makes.
-/

namespace FilterSql

/-- The operations that the steps of a program are made of. -/
structure Operations (F : Type) where
  /-- Nothing. -/
  empty : F
  /-- A template with its parameters, if there are as many as it has places. -/
  template : String → List Param → Option F
  /-- One after the other. -/
  append : F → F → F
  /-- Several with a separator between two. -/
  join : String → List F → F
  /-- One between two pieces of SQL. -/
  wrap : String → String → F → F
  /-- One between parentheses. -/
  parenthesize : F → F
  /-- With trusted SQL at the end. -/
  push : F → String → F
  /-- With a parameter at the end. -/
  bind : F → Param → F
  /-- With a list at the end. -/
  bindList : F → List Param → F
  /-- With a list of rows at the end. -/
  bindRows : F → List Param → F
  /-- With an array at the end. -/
  bindArray : F → List Param → F
  /-- With the name of a table at the end, if it is one. -/
  pushIdentifier : F → String → Option F

namespace Operations

/-- The operations on fragments. -/
def fragments : Operations Fragment where
  empty := .empty
  template t ps := (Fragment.ofTemplate t ps).toOption
  append f g := f ++ g
  join := Fragment.join
  wrap := Fragment.wrap
  parenthesize := Fragment.parenthesize
  push := Fragment.push
  bind := Fragment.bind
  bindList := Fragment.bindList
  bindRows := Fragment.bindRows
  bindArray := Fragment.bindArray
  pushIdentifier f name := (f.pushIdentifier name).toOption

/-- The operations on lists of tokens, which put lists one after another. -/
def tokens : Operations (List Token) where
  empty := []
  template := Template.tokens?
  append ts us := ts ++ us
  join s := List.intercalate [.literal s]
  wrap before after ts := .literal before :: ts ++ [.literal after]
  parenthesize ts := .literal "(" :: ts ++ [.literal ")"]
  push ts s := ts ++ [.literal s]
  bind ts p := ts ++ Token.bound p
  bindList ts ps :=
    ts ++ (.literal "(" :: List.intercalate [.literal ","] (ps.map Token.bound) ++ [.literal ")"])
  bindRows ts ps :=
    if ps.isEmpty then ts ++ [.literal "(NULL)"]
    else ts ++ List.intercalate [.literal ", "]
      (ps.map fun p => .literal "(" :: Token.bound p ++ [.literal ")"])
  bindArray ts ps :=
    ts ++ (.literal "array[" :: List.intercalate [.literal ", "] (ps.map Token.bound) ++
      [.literal "]"])
  pushIdentifier ts name :=
    (Identifier.read name).toOption.map fun s => ts ++ [.literal s]

/-- A map respects the operations on both sides. -/
structure Hom {F G : Type} (A : Operations F) (B : Operations G) (h : F → G) : Prop where
  empty : B.empty = h A.empty
  template (t : String) (ps : List Param) : B.template t ps = (A.template t ps).map h
  append (f g : F) : B.append (h f) (h g) = h (A.append f g)
  join (s : String) (fs : List F) : B.join s (fs.map h) = h (A.join s fs)
  wrap (before after : String) (f : F) : B.wrap before after (h f) = h (A.wrap before after f)
  parenthesize (f : F) : B.parenthesize (h f) = h (A.parenthesize f)
  push (f : F) (s : String) : B.push (h f) s = h (A.push f s)
  bind (f : F) (p : Param) : B.bind (h f) p = h (A.bind f p)
  bindList (f : F) (ps : List Param) : B.bindList (h f) ps = h (A.bindList f ps)
  bindRows (f : F) (ps : List Param) : B.bindRows (h f) ps = h (A.bindRows f ps)
  bindArray (f : F) (ps : List Param) : B.bindArray (h f) ps = h (A.bindArray f ps)
  pushIdentifier (f : F) (name : String) :
    B.pushIdentifier (h f) name = (A.pushIdentifier f name).map h

end Operations

namespace Token

/-- Parameters between two pieces of SQL each are tokens between them. -/
theorem separated_eq_fragmentOf (separator before after : String) (ps : List Param) :
    Fragment.separated separator before after ps =
      fragmentOf (List.intercalate [.literal separator]
        (ps.map fun p => .literal before :: bound p ++ [.literal after])) := by
  rw [fragmentOf_join, Fragment.separated, List.map_map]
  congr 2
  funext p
  rw [Function.comp_apply, fragmentOf_wrap, fragmentOf_bound]

/-- Parameters with nothing around them are their tokens. -/
theorem separated_empty_eq_fragmentOf (separator : String) (ps : List Param) :
    Fragment.separated separator "" "" ps =
      fragmentOf (List.intercalate [.literal separator] (ps.map bound)) := by
  rw [fragmentOf_join, Fragment.separated, List.map_map]
  congr 2
  funext p
  rw [Function.comp_apply, fragmentOf_bound, Fragment.wrap_empty]

end Token

open Token in
/-- The fragment of a list of tokens respects every operation. -/
theorem Operations.hom_fragmentOf : Hom tokens fragments fragmentOf where
  empty := rfl
  template t ps := Fragment.toOption_ofTemplate t ps
  append ts us := (fragmentOf_append ts us).symm
  join s tss := (fragmentOf_join s tss).symm
  wrap before after ts := (fragmentOf_wrap before after ts).symm
  parenthesize ts := (fragmentOf_wrap "(" ")" ts).symm
  push ts s := by
    rw [tokens, fragments, fragmentOf_append, fragmentOf_literal]
    rfl
  bind ts p := by
    rw [tokens, fragments, fragmentOf_append, fragmentOf_bound]
    rfl
  bindList ts ps := by
    rw [tokens, fragments, fragmentOf_append, fragmentOf_wrap, ← separated_empty_eq_fragmentOf]
    rfl
  bindRows ts ps := by
    cases ps with
    | nil =>
      change (fragmentOf ts).push "(NULL)" = fragmentOf (ts ++ [.literal "(NULL)"])
      rw [fragmentOf_append, fragmentOf_literal]
      rfl
    | cons p ps =>
      change fragmentOf ts ++ Fragment.separated ", " "(" ")" (p :: ps) = fragmentOf (ts ++ _)
      rw [fragmentOf_append, separated_eq_fragmentOf]
  bindArray ts ps := by
    rw [tokens, fragments, fragmentOf_append, fragmentOf_wrap, ← separated_empty_eq_fragmentOf]
    rfl
  pushIdentifier ts name := by
    rw [tokens, fragments]
    cases h : Identifier.read name with
    | error cause => simp [Fragment.pushIdentifier, h, Except.map, Except.toOption]
    | ok s =>
      simp [Fragment.pushIdentifier, h, Except.map, Except.toOption, fragmentOf_append,
        fragmentOf_literal, Fragment.push]

/-! ### Programs -/

/-- What a program has made so far, and the builder. -/
structure Workspace (F : Type) where
  /-- What is made, in order. -/
  made : List F
  /-- What the builder holds. -/
  builder : F

/-- What is made so far under a map. -/
def Workspace.map {F G : Type} (h : F → G) (w : Workspace F) : Workspace G :=
  ⟨w.made.map h, h w.builder⟩

/-- With one more made. -/
def Workspace.add {F : Type} (w : Workspace F) (f : F) : Workspace F :=
  { w with made := w.made ++ [f] }

@[simp] theorem Workspace.map_add {F G : Type} (h : F → G) (w : Workspace F) (f : F) :
    (w.add f).map h = (w.map h).add (h f) := by
  simp [Workspace.map, Workspace.add]

@[simp] theorem Workspace.getElem?_map {F G : Type} (h : F → G) (w : Workspace F) (i : Nat) :
    (w.map h).made[i]? = w.made[i]?.map h := by
  simp [Workspace.map]

/-- What several numbers name is there under a map where it was there before. -/
theorem Workspace.mapM_map {F G : Type} (h : F → G) (w : Workspace F) (is : List Nat) :
    is.mapM ((w.map h).made[·]?) = (is.mapM (w.made[·]?)).map (List.map h) := by
  induction is with
  | nil => rfl
  | cons i is ih =>
    rw [List.mapM_cons, List.mapM_cons, ih, Workspace.getElem?_map]
    cases w.made[i]? with
    | none => rfl
    | some f => cases is.mapM (w.made[·]?) <;> rfl

/-- A step of a program. What was made before is named by its number. -/
inductive Instruction where
  /-- Make a template with its parameters. -/
  | template (t : String) (ps : List Param)
  /-- Make a template without parameters. -/
  | raw (t : String)
  /-- Put one after another. -/
  | concat (i j : Nat)
  /-- Join several. -/
  | join (separator : String) (is : List Nat)
  /-- Put one between two pieces of SQL. -/
  | wrap (before after : String) (i : Nat)
  /-- Put one between parentheses. -/
  | parenthesize (i : Nat)
  /-- Push trusted SQL. -/
  | push (text : String)
  /-- Push a parameter. -/
  | bind (p : Param)
  /-- Push a list in parentheses. -/
  | list (ps : List Param)
  /-- Push a list of rows. -/
  | rows (ps : List Param)
  /-- Push an array. -/
  | array (ps : List Param)
  /-- Push one that is made already. -/
  | fragment (i : Nat)
  /-- Push the name of a table. -/
  | identifier (name : String)
  /-- Take what the builder holds and start it anew. -/
  | build

/-- What there is after a step; a step can fail. -/
def Instruction.run {F : Type} (ops : Operations F) (w : Workspace F) :
    Instruction → Option (Workspace F)
  | template t ps => (ops.template t ps).map w.add
  | raw t => (ops.template t []).map w.add
  | concat i j => do return w.add (ops.append (← w.made[i]?) (← w.made[j]?))
  | join separator is => (is.mapM (w.made[·]?)).map fun fs => w.add (ops.join separator fs)
  | wrap before after i => w.made[i]?.map fun f => w.add (ops.wrap before after f)
  | parenthesize i => w.made[i]?.map fun f => w.add (ops.parenthesize f)
  | push text => some { w with builder := ops.push w.builder text }
  | bind p => some { w with builder := ops.bind w.builder p }
  | list ps => some { w with builder := ops.bindList w.builder ps }
  | rows ps => some { w with builder := ops.bindRows w.builder ps }
  | array ps => some { w with builder := ops.bindArray w.builder ps }
  | fragment i => w.made[i]?.map fun f => { w with builder := ops.append w.builder f }
  | identifier name => (ops.pushIdentifier w.builder name).map fun f => { w with builder := f }
  | build => some { w.add w.builder with builder := ops.empty }

section Hom

variable {F G : Type} {A : Operations F} {B : Operations G} {h : F → G}

/-- A map that respects the operations respects each step, also in whether it fails. -/
theorem Instruction.run_map (hom : A.Hom B h) (w : Workspace F) (i : Instruction) :
    i.run B (w.map h) = (i.run A w).map (Workspace.map h) := by
  cases i with
  | template t ps =>
    rw [run, run, hom.template]
    cases A.template t ps <;> simp
  | raw t =>
    rw [run, run, hom.template]
    cases A.template t [] <;> simp
  | concat i j =>
    rw [run, run, Workspace.getElem?_map, Workspace.getElem?_map]
    cases w.made[i]? with
    | none => rfl
    | some f => cases w.made[j]? <;> simp [hom.append]
  | join separator is =>
    rw [run, run, Workspace.mapM_map]
    cases is.mapM (w.made[·]?) <;> simp [hom.join]
  | wrap before after i =>
    rw [run, run, Workspace.getElem?_map]
    cases w.made[i]? <;> simp [hom.wrap]
  | parenthesize i =>
    rw [run, run, Workspace.getElem?_map]
    cases w.made[i]? <;> simp [hom.parenthesize]
  | push text => simp [run, Workspace.map, hom.push]
  | bind p => simp [run, Workspace.map, hom.bind]
  | list ps => simp [run, Workspace.map, hom.bindList]
  | rows ps => simp [run, Workspace.map, hom.bindRows]
  | array ps => simp [run, Workspace.map, hom.bindArray]
  | fragment i =>
    rw [run, run, Workspace.getElem?_map]
    cases w.made[i]? <;> simp [Workspace.map, hom.append]
  | identifier name =>
    simp only [run, Workspace.map, hom.pushIdentifier]
    cases A.pushIdentifier w.builder name <;> rfl
  | build => simp [run, Workspace.map, Workspace.add, hom.empty]

end Hom

namespace Program

/-- What there is after a step; a step that fails changes nothing. -/
def step {F : Type} (ops : Operations F) (w : Workspace F) (i : Instruction) : Workspace F :=
  (i.run ops w).getD w

/-- What a program makes, starting from nothing. -/
def run {F : Type} (ops : Operations F) (program : List Instruction) : Workspace F :=
  program.foldl (step ops) ⟨[], ops.empty⟩

variable {F G : Type} {A : Operations F} {B : Operations G} {h : F → G}

theorem step_map (hom : A.Hom B h) (w : Workspace F) (i : Instruction) :
    step B (w.map h) i = (step A w i).map h := by
  rw [step, step, Instruction.run_map hom]
  cases i.run A w <;> rfl

/-- A map that respects the operations respects programs. -/
theorem run_map (hom : A.Hom B h) (program : List Instruction) :
    run B program = (run A program).map h := by
  have hsteps (w : Workspace F) :
      program.foldl (step B) (w.map h) = (program.foldl (step A) w).map h := by
    induction program generalizing w with
    | nil => rfl
    | cons i program ih => rw [List.foldl_cons, List.foldl_cons, step_map hom, ih]
  rw [run, run, ← hsteps, Workspace.map, List.map_nil, hom.empty]

/-- Each fragment that a program makes shows the tokens that the same program makes in its place,
and so does what its builder holds: the text is that of the literals, with a question mark at each
parameter; the parameters are those of the tokens, in order; each has one placeholder, and the
placeholders lie in increasing order at characters of the text that are question marks; and the
numbered text, which can be cut out of the text there, is that of the literals with the number of
each parameter in its place. -/
theorem run_shows (program : List Instruction) :
    List.Forall₂ Fragment.Shows (run .fragments program).made (run .tokens program).made ∧
      (run .fragments program).builder.Shows (run .tokens program).builder := by
  rw [run_map Operations.hom_fragmentOf]
  refine ⟨?_, Token.shows_fragmentOf _⟩
  rw [Workspace.map, List.forall₂_map_left_iff, List.forall₂_same]
  exact fun ts _ => Token.shows_fragmentOf ts

/-- Question marks that are pushed, joined with or written twice in a template stay. -/
example : (run .fragments [.push "é ? ", .bind (.int 2), .build, .raw "a ?? b",
    .join " ? " [0, 1, 0]]).made.map Fragment.numbered =
      ["é ? $1", "a ? b", "é ? $1 ? a ? b ? é ? $2"] := by
  decide

end Program

end FilterSql
