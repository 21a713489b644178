import FilterSql.CommandLine.Address
import FilterSql.CommandLine.Files
import FilterSql.CommandLine.Manual
import FilterSql.CommandLine.Request
import FilterSql.Filter.Reader
import FilterSql.Settings

/-!
# Running a request

A request is run against the files that it names. It shows lines of text until it is done or meets a
problem. The filter is read first, then the settings, and then the operators are put together; the
query, the check and the summaries come last.

## Main definitions

* `FilterSql.CommandLine.Surroundings`: the files and the other things that a request depends on.
* `FilterSql.CommandLine.queryLines`, `FilterSql.CommandLine.queryJson`: a query in either format.
* `FilterSql.CommandLine.operatorLines`: the list of operators.
* `FilterSql.CommandLine.run`: a request from its words to its outcome.
-/

namespace FilterSql.CommandLine

open Text

/-- What a request depends on beside its words. -/
structure Surroundings where
  /-- The text of a file, or why it cannot be read. -/
  file : String → Except FileProblem String
  /-- The file of settings that is used unless another one is given. -/
  settingsFile : Option String
  /-- The address of the database that is used unless another one is given. -/
  databaseUrl : Option String
  /-- The present. -/
  now : Timestamp

/-- What a request leads to. -/
structure Outcome where
  /-- The exit code. -/
  code : Nat
  /-- The text for standard output. -/
  output : String
  /-- The text for standard error. -/
  problem : String
deriving DecidableEq, Repr

/-- A part of a run: it adds to the output, and gives a value or the text of a problem. -/
abbrev Step (α : Type) := ExceptT String (StateM String) α

/-- Show a line. -/
def say (line : String) : Step Unit :=
  modify (· ++ line ++ "\n")

/-- Show lines. -/
def sayAll (lines : List String) : Step Unit :=
  modify (· ++ unlines lines)

/-- A result whose problem is to be worded. -/
def wording {ε α : Type} (word : ε → String) (r : Except ε α) : Step α :=
  match r with
  | .ok x => pure x
  | .error e => throw (word e)

/-- The wording of an error and of what lies behind it: an error at a place has its cause behind
it. -/
def errorTrail (e : Error) : String :=
  match e.path with
  | none => e.message
  | some _ => e.message ++ ": " ++ e.cause.message

/-! ### What is shown -/

/-- The parameters of a query, numbered from one. -/
def bindingLines (params : List Param) : List String :=
  params.mapIdx fun i p => "  $" ++ integer (i + 1) ++ " = " ++ p.display

/-- A query and its parameters as lines of text. -/
def queryLines (query : Fragment) : List String :=
  ["Generated SQL:", query.numbered] ++
    if query.params.isEmpty then []
    else ["", "Bindings:"] ++ bindingLines query.params

mutual

/-- A parameter as JSON. -/
def paramJson : Param → Json
  | .null => .null
  | .typedNull _ => .null
  | .bool b => .bool b
  | .int n => .number (.ofInt n)
  | .float x => if x.isFinite then .number (.float x) else .null
  | .text s => .string s
  | .timestamp t => .string t.spacedText
  | .json x => x
  | .array items => .array (paramsJson items)
termination_by structural p => p

/-- Parameters as JSON. -/
def paramsJson : List Param → List Json
  | [] => []
  | p :: ps => paramJson p :: paramsJson ps
termination_by structural ps => ps

end

/-- A query and its parameters as JSON. -/
def queryJson (query : Fragment) : Json :=
  .object [("params", .array (paramsJson query.params)), ("sql", .string query.numbered)]

/-- A text filled up with blanks on the right to a width. -/
def padRight (width : Nat) (s : String) : String :=
  s ++ blanks (width - s.length)

/-- A row of the list of operators. -/
def operatorRow (name type negative : String) : String :=
  padRight 22 name ++ " " ++ padRight 15 type ++ " " ++ negative

/-- The list of operators. -/
def operatorLines (table : OperatorTable) : List String :=
  [operatorRow "Operator" "Value type" "Negative", String.ofList (List.replicate 50 '─')] ++
    table.operators.map fun op =>
      operatorRow op.name op.type.token (if op.negative then "yes" else "")

/-! ### Running -/

/-- The filter of an argument: its text, or the file that it names after an at sign. -/
def readFilter (around : Surroundings) (argument : String) : Step Filter := do
  let text ← match argument.toList with
    | '@' :: path =>
      let path := String.ofList path
      wording (fun e => "reading filter " ++ path ++ ": " ++ e.message) (around.file path)
    | _ => pure argument
  wording (fun e => "filter is not valid JSON: " ++ e.message) (Filter.read text)

/-- The settings of a request. -/
def loadSettings (around : Surroundings) (request : Request) : Step Settings := do
  match request.catalog.or around.settingsFile with
  | none => throw "no config directory; pass --catalog"
  | some path =>
    if request.verbose then say ("Catalog: " ++ path)
    let failure (reason : String) :=
      "loading catalog " ++ path ++ ": Configuration error: " ++ reason
    let text ← wording (fun e => failure (path ++ ": " ++ e.message)) (around.file path)
    wording (fun e => failure (e.message text)) (Settings.read text)

/-- The compiler of some settings. -/
def compilerOf (around : Surroundings) (settings : Settings) : Step Compiler :=
  wording Cause.message (settings.compiler around.now)

/-- Show the query of a filter. Queries are shown and never sent: a request to send one, by an
address and no wish for a dry run, ends where the connection would be made. -/
def compile (around : Surroundings) (request : Request) (argument : String) : Step Unit := do
  let f ← readFilter around argument
  let settings ← loadSettings around request
  let compiler ← compilerOf around settings
  let query ← wording errorTrail (compiler.query f)
  match request.databaseUrl.or settings.databaseUrl, request.dryRun with
  | some url, false =>
    if request.verbose then
      sayAll ["SQL: " ++ query.numbered, "Connecting to: " ++ url]
    throw ("Database error: " ++ connectionProblem url)
  | url, _ =>
    match request.format with
    | .table => sayAll (queryLines query)
    | .json => say (queryJson query).prettyText
    if url.isNone && !request.dryRun then
      sayAll ["", "⚠ No database URL. Use --database-url or set WINNOW_DATABASE_URL"]

/-- Check a filter. -/
def validate (around : Surroundings) (request : Request) (argument : String) : Step Unit := do
  let f ← readFilter around argument
  let compiler ← compilerOf around (← loadSettings around request)
  let resolved ← wording errorTrail (compiler.resolve f)
  say ("✓ Filter is valid (" ++ integer resolved.clauses.length ++ " clause(s))")

/-- Describe the clauses of a filter. -/
def summarize (around : Surroundings) (request : Request) (argument : String) : Step Unit := do
  let f ← readFilter around argument
  let compiler ← compilerOf around (← loadSettings around request)
  let summaries ← wording errorTrail (compiler.summaries f)
  if summaries.isEmpty then say "(matches everything)"
  else sayAll (summaries.map ("  • " ++ ·))

/-- List the operators: the standard ones, unless a file of settings is given. -/
def listOperators (around : Surroundings) (request : Request) : Step Unit := do
  let table ← match request.catalog with
    | none => pure OperatorTable.standard
    | some _ => do
      let settings ← loadSettings around request
      wording Cause.message settings.operatorTable
  sayAll (operatorLines table)

/-- Do what a request asks for. -/
def perform (around : Surroundings) (request : Request) : Step Unit :=
  match request.task with
  | .introduce => modify (· ++ introduction)
  | .compile filter => compile around request filter
  | .validate filter => validate around request filter
  | .summarize filter => summarize around request filter
  | .listOperators => listOperators around request

/-- The outcome of a run from its start. -/
def Step.outcome (step : Step Unit) : Outcome :=
  match (ExceptT.run step).run "" with
  | (.ok _, output) => ⟨0, output, ""⟩
  | (.error problem, output) => ⟨1, output, "Error: " ++ problem ++ "\n"⟩

/-- The outcome of a command line. -/
def run (around : Surroundings) (words : List String) : Outcome :=
  match Request.read words around.databaseUrl with
  | .ok request => (perform around request).outcome
  | .error (.help command) => ⟨0, manual around.databaseUrl command, ""⟩
  | .error .version => ⟨0, versionLine, ""⟩
  | .error .misuse => ⟨2, "", misuseNotice⟩

/-- The files that a request may read. -/
def Request.paths (request : Request) (settingsFile : Option String) : List String :=
  let argument : Option String := match request.task with
    | .compile filter => some filter
    | .validate filter => some filter
    | .summarize filter => some filter
    | _ => none
  let filterFile : List String := match argument.map String.toList with
    | some ('@' :: path) => [String.ofList path]
    | _ => []
  filterFile ++ (request.catalog.or settingsFile).toList

end FilterSql.CommandLine
