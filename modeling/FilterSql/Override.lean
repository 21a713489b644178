import FilterSql.Condition
import FilterSql.Resolved
import FilterSql.Summary

/-!
# Overrides

The condition of a clause can be overridden for the clauses on one data source whose operator
belongs to one value type. Overrides are registered under these two; a registration names all the
value types it is for, and either takes effect as a whole or not at all.

## Main definitions

* `FilterSql.Environment`: what an override can use.
* `FilterSql.Override`: the builder of a condition.
* `FilterSql.Overrides`: the registered overrides.
* `FilterSql.Overrides.register`, `FilterSql.Overrides.lookup`: registration and look-up.
* `FilterSql.Recipe`: a builder given by its steps.
-/

namespace FilterSql

/-- What the condition of a clause is built from, the clause itself aside. -/
structure Environment where
  /-- The table of queries. -/
  table : String
  /-- The data sources. -/
  catalog : Catalog
  /-- The operators. -/
  operators : OperatorTable
  /-- The moment that relative dates are taken from. -/
  now : Timestamp

/-- The condition of a clause that no override applies to. -/
def Environment.defaultCondition (env : Environment) (c : ResolvedClause) :
    Except Error Fragment :=
  match Condition.build c.source.column c.operator c.value env.now with
  | .ok f => .ok f
  | .error cause => .error ⟨cause, none⟩

/-- The builder of the condition of a clause. -/
abbrev Override := Environment → ResolvedClause → Except Error Fragment

/-- The key of an override: the display name of a data source and the value type of an operator. -/
abbrev OverrideKey := String × ValueType

/-- The registered overrides. -/
structure Overrides where
  /-- The overrides with their keys, in the order of registration. -/
  entries : List (OverrideKey × Override)

namespace Overrides

/-- No overrides. -/
def empty : Overrides := ⟨[]⟩

instance : Inhabited Overrides := ⟨empty⟩

/-- The override that is registered under a key. -/
def lookup (overrides : Overrides) (source : String) (type : ValueType) : Option Override :=
  overrides.entries.lookup (source, type)

/-- The number of keys. -/
def size (overrides : Overrides) : Nat :=
  overrides.entries.length

/-- The first value type of a list whose key is taken, or which stands earlier in the list. -/
def firstConflict? (overrides : Overrides) (source : String) (earlier : List ValueType) :
    List ValueType → Option ValueType
  | [] => none
  | type :: rest =>
    if (overrides.lookup source type).isSome || earlier.contains type then some type
    else firstConflict? overrides source (type :: earlier) rest

/-- The overrides with one more, under each of some value types. -/
def register (overrides : Overrides) (source : String) (types : List ValueType)
    (override : Override) : Except Cause Overrides :=
  match overrides.firstConflict? source [] types with
  | some type => .error (.conflictingOverride source type)
  | none => .ok ⟨overrides.entries ++ types.map fun type => ((source, type), override)⟩

/-- Whether a key comes before another one: by data source, then by the spelling of the value
type. -/
def precedes (a b : OverrideKey) : Bool :=
  a.1 < b.1 || (a.1 == b.1 && a.2.token ≤ b.2.token)

/-- The keys in their order, for people to read. -/
def outline (overrides : Overrides) : String :=
  let keys := (overrides.entries.map (·.1)).mergeSort precedes
  "SpecialCases \x7b handlers: [" ++
    ", ".intercalate (keys.map fun k => "(" ++ Text.quoted k.1 ++ ", " ++ k.2.name ++ ")") ++
    "] \x7d"

end Overrides

/-- A step of a recipe. -/
inductive RecipeStep where
  /-- A step that needs no clause. -/
  | build (step : BuildStep)
  /-- Drop what is built so far. -/
  | restart
  /-- The condition that no override applies to. -/
  | default
  /-- The column. -/
  | column
  /-- The clause in words, as a parameter. -/
  | bindSummary
  /-- The raw value of the clause, as a parameter. -/
  | bindRaw
  /-- The place of the clause, as a parameter. -/
  | bindPath
  /-- The truth of the value, as a parameter; a null if it is no boolean. -/
  | bindTruth
  /-- Negate what is built so far if the value is false. -/
  | negateIfFalse

/-- A builder given by its steps. -/
abbrev Recipe := List RecipeStep

namespace RecipeStep

/-- The fragment after a step. -/
def run (env : Environment) (c : ResolvedClause) (f : Fragment) :
    RecipeStep → Except Error Fragment
  | build step => (step.run f).mapError fun cause => ⟨cause, none⟩
  | restart => .ok .empty
  | default => (env.defaultCondition c).map (f ++ ·)
  | column => .ok (f.push c.source.column)
  | bindSummary => .ok (f.bind (.text c.summary))
  | bindRaw => .ok (f.bind (.json c.clause.value))
  | bindPath => .ok (f.bind (.text c.path.text))
  | bindTruth =>
    .ok (f.bind (match c.value.truth? with
      | some b => .bool b
      | none => .null))
  | negateIfFalse =>
    .ok (if c.value.truth? = some false then f.wrap "NOT " "" else f)

end RecipeStep

/-- The override that a recipe describes. The first step that fails gives the error. -/
def Recipe.override (recipe : Recipe) : Override := fun env c =>
  recipe.foldlM (RecipeStep.run env c) .empty

end FilterSql
