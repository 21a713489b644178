import FilterSql.CommandLine.Flag
import FilterSql.Text.Terminal

/-!
# The manual

The texts in which the program explains itself. A page lists commands, arguments and flags in two
columns, the second of which begins two blanks after the longest label of the list. Pages are
written for a terminal, with their labels in bold, and shown as plain text: this takes out the
control sequences of the labels, and those of a text from outside as well.

## Main definitions

* `FilterSql.CommandLine.introduction`, `FilterSql.CommandLine.versionLine`: short texts.
* `FilterSql.CommandLine.columns`: a list of labels and of what they stand for.
* `FilterSql.CommandLine.manual`: the pages on the program and on its commands.
-/

namespace FilterSql.CommandLine

open Text

/-- Lines as one text, each with its end. -/
def unlines (lines : List String) : String :=
  String.join (lines.map (· ++ "\n"))

/-- A number of blanks. -/
def blanks (n : Nat) : String :=
  String.ofList (List.replicate n ' ')

/-- Labels and what they stand for, in two columns. Further lines of a text in the second column
begin where its first line does. -/
def columns (rows : List (String × String)) : List String :=
  let width := (rows.map fun row => row.1.length).foldl max 0
  let nextLine := "\n" ++ blanks (width + 4)
  rows.map fun (label, text) =>
    "  " ++ Terminal.bold label ++ blanks (width - label.length + 2) ++
      nextLine.intercalate (text.splitOn "\n")

/-- The version of the program. -/
def versionLine : String :=
  unlines ["winnow 0.3.0"]

/-- What the program says when it is asked for nothing. -/
def introduction : String :=
  unlines [
    "winnow: filter trees to parameterized SQL",
    "",
    "Usage: winnow <FILTER> --catalog <FILE> [OPTIONS]",
    "",
    "Try: winnow --help"]

/-- What the program says to words that it does not know. -/
def misuseNotice : String :=
  unlines [
    "error: invalid arguments",
    "",
    "For more information, try '--help'."]

/-- What each command does, in one line. -/
def Command.about : Command → String
  | validate => "Resolve a filter against the catalog without compiling it"
  | summarize => "Describe each clause of a filter in words"
  | operators => "List the operators filters can use"
  | help => "Print this message or the help of the given subcommand(s)"

/-- The list of the commands. -/
def commandRows : List (String × String) := [
  ("validate", Command.validate.about),
  ("summarize", Command.summarize.about),
  ("operators", Command.operators.about),
  ("help", Command.help.about)]

/-- The flag for the file of settings. -/
def catalogRow : String × String :=
  ("-c, --catalog <CATALOG>", "Catalog file (defaults to <config dir>/winnow/catalog.toml)")

/-- The flag for more output. -/
def verboseRow : String × String := ("-v, --verbose", "Verbose output")

/-- The flag for help. -/
def helpRow : String × String := ("-h, --help", "Print help")

/-- The flags of the program. With the flag for the address of the database stands the address that
is used without it. -/
def programFlagRows (databaseUrl : Option String) : List (String × String) := [
  catalogRow,
  ("-d, --dry-run", "Don't execute, just show the generated SQL"),
  ("-f, --format <FORMAT>", "Output format [default: table] [possible values: table, json]"),
  ("    --database-url <DATABASE_URL>",
    "Database connection URL [env: WINNOW_DATABASE_URL=" ++ databaseUrl.getD "" ++ "]"),
  verboseRow,
  helpRow,
  ("-V, --version", "Print version")]

/-- The page on the program. -/
def programPage (databaseUrl : Option String) : List String :=
  ["Compile filter trees into parameterized SQL", "",
    "Usage: winnow [OPTIONS] [FILTER] [COMMAND]", "", "Commands:"] ++ columns commandRows ++
  ["", "Arguments:"] ++
    columns [("[FILTER]", "Filter as inline JSON, or @path to a JSON file")] ++
  ["", "Options:"] ++ columns (programFlagRows databaseUrl) ++
  ["", "EXAMPLES:",
    "    winnow @filter.json --catalog shop.toml --dry-run",
    "    winnow '\x7b\"filter_clauses\": [\x7b\"data_source\": \"Flavor\", " ++
      "\"operator\": \"is\", \"value\": \"Mint\"\x7d]\x7d'",
    "    winnow summarize @filter.json"]

/-- The flags of every command. -/
def commandFlags : List String :=
  "Options:" :: columns [catalogRow, verboseRow, helpRow]

/-- The page on a command with a filter. -/
def filterCommandPage (c : Command) (name : String) : List String :=
  [c.about, "", "Usage: winnow " ++ name ++ " [OPTIONS] <FILTER>", "", "Arguments:"] ++
    columns [("<FILTER>", "Filter as inline JSON, or @path")] ++ [""] ++ commandFlags

/-- The page on a command. -/
def commandPage : Command → List String
  | .validate => filterCommandPage .validate "validate"
  | .summarize => filterCommandPage .summarize "summarize"
  | .operators =>
    [Command.operators.about, "", "Usage: winnow operators [OPTIONS]", ""] ++ commandFlags
  | .help =>
    [Command.help.about, "", "Usage: winnow help [COMMAND]...", "", "Arguments:"] ++
      columns [("[COMMAND]...", "Print help for the subcommand(s)")]

/-- The page on the program or on a command, where `databaseUrl` is the address of the database that
is used unless another one is given. -/
def manual (databaseUrl : Option String) : Option Command → String
  | none => Terminal.plain (unlines (programPage databaseUrl))
  | some c => Terminal.plain (unlines (commandPage c))

end FilterSql.CommandLine
