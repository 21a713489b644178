/-!
# Flags and commands

The words of the command line: commands, the flags that each of them knows, and the formats of
queries.

## Main definitions

* `FilterSql.CommandLine.Format`: how a query is shown.
* `FilterSql.CommandLine.Command`: the commands.
* `FilterSql.CommandLine.Flag`: the flags, by their long names and letters.
* `FilterSql.CommandLine.Scope`: what may stand after the program's name or after a command.
-/

namespace FilterSql.CommandLine

/-- How a query is shown. -/
inductive Format where
  /-- Lines of text. -/
  | table
  /-- A JSON object. -/
  | json
deriving DecidableEq, Repr

/-- The format of a name. -/
def Format.ofName? (name : String) : Option Format :=
  if name = "table" then some .table
  else if name = "json" then some .json
  else none

/-- The commands. -/
inductive Command where
  /-- Check a filter. -/
  | validate
  /-- Describe the clauses of a filter. -/
  | summarize
  /-- List the operators. -/
  | operators
  /-- Explain the program or a command. -/
  | help
deriving DecidableEq, Repr

/-- The command of a name. -/
def Command.ofName? (name : String) : Option Command :=
  if name = "validate" then some .validate
  else if name = "summarize" then some .summarize
  else if name = "operators" then some .operators
  else if name = "help" then some .help
  else none

/-- Whether a command is about a filter. -/
def Command.takesFilter : Command → Bool
  | validate => true
  | summarize => true
  | operators => false
  | help => false

/-- The flags. -/
inductive Flag where
  /-- The file of settings. -/
  | catalog
  /-- Whether the query is only shown. -/
  | dryRun
  /-- The format of the query. -/
  | format
  /-- The address of the database. -/
  | databaseUrl
  /-- Whether more is shown. -/
  | verbose
  /-- Explain the program or the command. -/
  | help
  /-- Show the version of the program. -/
  | version
deriving DecidableEq, Repr

namespace Flag

/-- The name of a flag after two hyphens. -/
def long : Flag → String
  | catalog => "catalog"
  | dryRun => "dry-run"
  | format => "format"
  | databaseUrl => "database-url"
  | verbose => "verbose"
  | help => "help"
  | version => "version"

/-- The letter of a flag after one hyphen. -/
def letter? : Flag → Option Char
  | catalog => some 'c'
  | dryRun => some 'd'
  | format => some 'f'
  | databaseUrl => none
  | verbose => some 'v'
  | help => some 'h'
  | version => some 'V'

/-- Whether a flag is followed by a text. -/
def takesText : Flag → Bool
  | catalog => true
  | format => true
  | databaseUrl => true
  | _ => false

end Flag

/-- What may stand after the program's name, or after a command. -/
structure Scope where
  /-- The command, if there is one. -/
  command : Option Command
  /-- The flags. -/
  flags : List Flag
  /-- Whether a filter may stand there. -/
  takesFilter : Bool

namespace Scope

/-- What may stand after the program's name. -/
def program : Scope :=
  ⟨none, [.catalog, .dryRun, .format, .databaseUrl, .verbose, .help, .version], true⟩

/-- What may stand after a command. -/
def ofCommand (c : Command) : Scope :=
  ⟨some c, [.catalog, .verbose, .help], c.takesFilter⟩

/-- The command that a word begins. -/
def command? (scope : Scope) (word : String) : Option Command :=
  if scope.command.isNone then Command.ofName? word else none

end Scope

end FilterSql.CommandLine
