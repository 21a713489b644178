import FilterSql.Compiler
import FilterSql.Toml.Dialect
import FilterSql.Toml.Reader

/-!
# Settings

A file in TOML gives the table that queries select from, and may give the address of a database, the
data sources, and operators beside the standard ones. It has no other keys.

## Main definitions

* `FilterSql.Settings`: the contents of such a file.
* `FilterSql.Settings.read`: reading a file.
* `FilterSql.Settings.operatorTable`: the standard operators and those of the file.
* `FilterSql.Settings.compiler`: the compiler for the table of the file.
-/

namespace FilterSql

/-- The contents of a file of settings. -/
structure Settings where
  /-- The table that queries select from. -/
  table : String
  /-- The address of the database. -/
  databaseUrl : Option String := none
  /-- The data sources that clauses can name. -/
  sources : List DataSource := []
  /-- The operators beside the standard ones. -/
  operators : List Operator := []
deriving DecidableEq, Repr

namespace Settings

/-- The fields of settings. -/
def fields {V E : Type} (dialect : Record.Dialect V E) : List (Record.Field V E Settings) := [
  { name := "table", required := true
    decode := fun x s => do return { s with table := ← Record.decodeString dialect x } },
  { name := "database_url", required := false
    decode := fun x s => do
      let text := Record.decodeString dialect
      return { s with databaseUrl := ← Record.decodeOption dialect text x } },
  { name := "sources", required := false
    decode := fun x s => do
      return { s with sources := ← Record.decodeList dialect (DataSource.decode dialect) x } },
  { name := "operators", required := false
    decode := fun x s => do
      return { s with operators := ← Record.decodeList dialect (Operator.decode dialect) x } }]

/-- Settings as they are read. They have no other members. -/
def decode {V E : Type} (dialect : Record.Dialect V E) : V → Except E Settings :=
  Record.decode dialect "Settings" true (fields dialect) { table := "" }

/-- The settings of a text, unless it is no TOML, has other keys, or has a value of a wrong type. -/
def read (text : String) : Except Toml.Error Settings := do
  let x ← Toml.read text
  decode .toml ⟨none, x⟩

/-- The standard operators, followed by those of the settings. -/
def operatorTable (settings : Settings) : Except Cause OperatorTable :=
  OperatorTable.standard.pushAll settings.operators

/-- The compiler for the table and the data sources of the settings, at a point in time. -/
def compiler (settings : Settings) (now : Timestamp) : Except Cause Compiler := do
  let operators ← settings.operatorTable
  return { table := settings.table, catalog := ⟨settings.sources⟩, operators, now,
           overrides := .empty }

end Settings

end FilterSql
