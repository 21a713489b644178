import FilterSql.Operator

/-!
# Catalogs

The data sources that clauses can name, in order. A clause names a data source by its exact display
name, which only one data source of the catalog may have.

## Main definitions

* `FilterSql.DataSource`, `FilterSql.Choice`: a data source and the choices it offers.
* `FilterSql.Catalog`: a list of data sources.
* `FilterSql.Catalog.resolve`: the data source that a clause names.
-/

namespace FilterSql

/-- A choice that a data source offers. -/
structure Choice where
  /-- The identifier. -/
  id : String
  /-- The name for people to read. -/
  name : String
deriving DecidableEq, Repr

/-- A field that clauses can name. -/
structure DataSource where
  /-- The name that clauses use. -/
  displayName : String
  /-- The SQL expression of the field, which is written into queries as it is. -/
  column : String
  /-- The value types that the field has. -/
  types : List ValueType
  /-- The choices that the field offers, if it has a list of them. -/
  choices : Option (List Choice) := none
deriving DecidableEq, Repr

/-- The data sources that clauses can name. -/
structure Catalog where
  /-- The data sources in their order. -/
  sources : List DataSource
deriving DecidableEq, Repr

namespace Choice

/-- The fields of a choice. -/
def fields {V E : Type} (dialect : Record.Dialect V E) : List (Record.Field V E Choice) := [
  { name := "id", required := true
    decode := fun x c => do return { c with id := ← Record.decodeString dialect x } },
  { name := "name", required := true
    decode := fun x c => do return { c with name := ← Record.decodeString dialect x } }]

/-- A choice as it is read. -/
def decode {V E : Type} (dialect : Record.Dialect V E) : V → Except E Choice :=
  Record.decode dialect "Choice" false (fields dialect) ⟨"", ""⟩

/-- A choice as it is written. -/
def toJson (c : Choice) : Json :=
  .object [("id", .string c.id), ("name", .string c.name)]

end Choice

namespace DataSource

/-- Whether a data source has a value type. -/
def accepts (source : DataSource) (type : ValueType) : Bool :=
  source.types.contains type

/-- The fields of a data source. -/
def fields {V E : Type} (dialect : Record.Dialect V E) : List (Record.Field V E DataSource) := [
  { name := "display_name", required := true
    decode := fun x s => do
      return { s with displayName := ← Record.decodeString dialect x } },
  { name := "column", required := true
    decode := fun x s => do return { s with column := ← Record.decodeString dialect x } },
  { name := "value_types", required := true
    decode := fun x s => do
      return { s with types := ← Record.decodeList dialect (ValueType.decode dialect) x } },
  { name := "choices", required := false
    decode := fun x s => do
      let list := Record.decodeList dialect (Choice.decode dialect)
      return { s with choices := ← Record.decodeOption dialect list x } }]

/-- A data source as it is read. -/
def decode {V E : Type} (dialect : Record.Dialect V E) : V → Except E DataSource :=
  Record.decode dialect "DataSource" false (fields dialect) ⟨"", "", [], none⟩

/-- A data source as it is written; absent choices are left out. -/
def toJson (source : DataSource) : Json :=
  .object <|
    [("display_name", .string source.displayName), ("column", .string source.column),
      ("value_types", .array (source.types.map ValueType.toJson))] ++
    (source.choices.map fun cs => ("choices", Json.array (cs.map Choice.toJson))).toList

end DataSource

namespace Catalog

/-- The catalog without data sources. -/
def empty : Catalog := ⟨[]⟩

/-- The one data source with a display name. -/
def resolve (catalog : Catalog) (name : String) : Except Cause DataSource :=
  match catalog.sources.filter (·.displayName == name) with
  | [] => .error (.unknownDataSource name)
  | [source] => .ok source
  | _ :: _ :: _ => .error (.ambiguousDataSource name)

/-- A catalog as it is read: a list of data sources. -/
def decode {V E : Type} (dialect : Record.Dialect V E) (x : V) : Except E Catalog :=
  (Record.decodeList dialect (DataSource.decode dialect) x).map Catalog.mk

/-- A catalog as it is written. -/
def toJson (catalog : Catalog) : Json :=
  .array (catalog.sources.map DataSource.toJson)

end Catalog

end FilterSql
