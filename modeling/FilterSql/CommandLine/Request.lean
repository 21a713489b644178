import FilterSql.CommandLine.Flag

/-!
# Reading the command line

The words of the command line are read in order. The text of a flag is its next word, or is attached
to it; letters of flags may share one hyphen. After two hyphens alone, every word is a filter. A
command ends the words of the program and begins its own; the file of settings and the wish for more
output may be given on either side of it.

## Main definitions

* `FilterSql.CommandLine.Request`: what the program is asked for.
* `FilterSql.CommandLine.Stop`: why there is nothing to run.
* `FilterSql.CommandLine.readWords`: the words up to a command.
* `FilterSql.CommandLine.Request.read`: the whole command line.
-/

namespace FilterSql.CommandLine

/-- What the program is to do. -/
inductive Task where
  /-- Say how it is used. -/
  | introduce
  /-- Show the query of a filter. -/
  | compile (filter : String)
  /-- Check a filter. -/
  | validate (filter : String)
  /-- Describe the clauses of a filter. -/
  | summarize (filter : String)
  /-- List the operators. -/
  | listOperators
deriving DecidableEq, Repr

/-- What the program is asked for. -/
structure Request where
  /-- What it is to do. -/
  task : Task
  /-- The file of settings. -/
  catalog : Option String := none
  /-- Whether the query is only shown. -/
  dryRun : Bool := false
  /-- The format of the query. -/
  format : Format := .table
  /-- The address of the database. -/
  databaseUrl : Option String := none
  /-- Whether more is shown. -/
  verbose : Bool := false
deriving DecidableEq, Repr

/-- Why there is nothing to run. -/
inductive Stop where
  /-- The program, or one of its commands, is to be explained. -/
  | help (command : Option Command)
  /-- The version is to be shown. -/
  | version
  /-- The words are none that the program knows. -/
  | misuse
deriving DecidableEq, Repr

/-- What the flags and filters among some words give. -/
structure Given where
  /-- The filter. -/
  filter : Option String := none
  /-- The file of settings. -/
  catalog : Option String := none
  /-- Whether the query is only shown. -/
  dryRun : Bool := false
  /-- The format of the query. -/
  format : Option Format := none
  /-- The address of the database. -/
  databaseUrl : Option String := none
  /-- Whether more is shown. -/
  verbose : Bool := false
deriving DecidableEq, Repr

/-- Take a flag with its text. No flag is given twice. -/
def Given.give (g : Given) (command : Option Command) (flag : Flag) (text : Option String) :
    Except Stop Given :=
  match flag, text with
  | .catalog, some path =>
    if g.catalog.isSome || path.isEmpty then .error .misuse
    else .ok { g with catalog := some path }
  | .format, some name =>
    if g.format.isSome then .error .misuse
    else
      match Format.ofName? name with
      | some format => .ok { g with format := some format }
      | none => .error .misuse
  | .databaseUrl, some url =>
    if g.databaseUrl.isSome then .error .misuse else .ok { g with databaseUrl := some url }
  | .dryRun, none => if g.dryRun then .error .misuse else .ok { g with dryRun := true }
  | .verbose, none => if g.verbose then .error .misuse else .ok { g with verbose := true }
  | .help, none => .error (.help command)
  | .version, none => .error .version
  | _, _ => .error .misuse

/-- How far some words are read. -/
structure Progress where
  /-- What they give so far. -/
  given : Given := {}
  /-- The last flag that takes a text, with that text once it is there; it is looked at when the
  next flag or filter begins. -/
  pending : Option (Flag × Option String) := none
  /-- Whether every further word is a filter. -/
  filtersOnly : Bool := false

namespace Progress

/-- What the words give, with the flag that was left open. -/
def settle (p : Progress) (command : Option Command) : Except Stop Given :=
  match p.pending with
  | some (flag, text) => p.given.give command flag text
  | none => .ok p.given

/-- Whether the next word is the text of a flag. -/
def awaitsText (p : Progress) : Bool :=
  match p.pending with
  | some (_, none) => true
  | _ => false

/-- Take a flag, with the text attached to it. -/
def flag (p : Progress) (command : Option Command) (f : Flag) (attached : Option String) :
    Except Stop Progress := do
  let given ← p.settle command
  if f.takesText && attached.isNone then return { p with given, pending := some (f, none) }
  else return { p with given := ← given.give command f attached, pending := none }

/-- Take the letters after a hyphen. -/
def letters (scope : Scope) (p : Progress) : List Char → Except Stop Progress
  | [] => .ok p
  | c :: rest =>
    match scope.flags.find? (·.letter? == some c) with
    | none => .error .misuse
    | some f =>
      if f.takesText then
        p.flag scope.command f <|
          match rest with
          | [] => none
          | '=' :: text => some (String.ofList text)
          | text => some (String.ofList text)
      else
        match p.flag scope.command f none with
        | .ok p => p.letters scope rest
        | .error stop => .error stop

/-- Take the name after two hyphens, with an attached text after an equals sign. -/
def name (scope : Scope) (p : Progress) (word : List Char) : Except Stop Progress :=
  let long := String.ofList (word.takeWhile (· ≠ '='))
  let attached := match word.dropWhile (· ≠ '=') with
    | _ :: text => some (String.ofList text)
    | [] => none
  match scope.flags.find? (·.long == long) with
  | some f => p.flag scope.command f attached
  | none => .error .misuse

/-- Take a filter. -/
def filter (scope : Scope) (p : Progress) (text : String) : Except Stop Progress := do
  let given ← p.settle scope.command
  if scope.takesFilter && given.filter.isNone then
    return { p with given := { given with filter := some text }, pending := none }
  else .error .misuse

/-- Take a word that is no command. -/
def word (scope : Scope) (p : Progress) (text : String) : Except Stop Progress :=
  if p.filtersOnly then p.filter scope text
  else
    match text.toList with
    | ['-', '-'] => .ok { p with filtersOnly := true }
    | '-' :: '-' :: rest => p.name scope rest
    | '-' :: c :: rest => p.letters scope (c :: rest)
    | _ =>
      match p.pending with
      | some (f, none) => .ok { p with pending := some (f, some text) }
      | _ => p.filter scope text

end Progress

/-- The words up to a command: what they give, and the command with the words after it. -/
def readWords (scope : Scope) (p : Progress) : List String →
    Except Stop (Progress × Option (Command × List String))
  | [] => .ok (p, none)
  | text :: rest =>
    match scope.command? text with
    | some command =>
      if p.filtersOnly || p.awaitsText then
        match p.word scope text with
        | .ok p => readWords scope p rest
        | .error stop => .error stop
      else .ok (p, some (command, rest))
    | none =>
      match p.word scope text with
      | .ok p => readWords scope p rest
      | .error stop => .error stop

/-- What the words of the command for help ask for. -/
def helpOf : List String → Stop
  | [] => .help none
  | [name] =>
    match Command.ofName? name with
    | some command => .help (some command)
    | none => .misuse
  | _ => .misuse

/-- What a command is to do. -/
def Command.task? : Command → Option String → Option Task
  | validate, some filter => some (.validate filter)
  | summarize, some filter => some (.summarize filter)
  | operators, none => some .listOperators
  | _, _ => none

namespace Request

/-- The request that the given things make up. -/
def ofGiven (task : Task) (g : Given) (databaseUrl : Option String) : Request :=
  { task, catalog := g.catalog, dryRun := g.dryRun, format := g.format.getD .table
    databaseUrl := g.databaseUrl.or databaseUrl, verbose := g.verbose }

/-- The request of a command line, where the address of the database may also come from outside of
it. -/
def read (words : List String) (databaseUrl : Option String) : Except Stop Request := do
  match ← readWords .program {} words with
  | (p, none) =>
    let given ← p.settle none
    let task := match given.filter with
      | some filter => Task.compile filter
      | none => .introduce
    return ofGiven task given databaseUrl
  | (_, some (.help, rest)) => .error (helpOf rest)
  | (p, some (command, rest)) =>
    let (inner, _) ← readWords (.ofCommand command) {} rest
    let inner ← inner.settle (some command)
    match command.task? inner.filter with
    | none => .error .misuse
    | some task =>
      let given ← p.settle none
      let given := { given with
        catalog := inner.catalog.or given.catalog
        verbose := inner.verbose || given.verbose }
      return ofGiven task given databaseUrl

end Request

end FilterSql.CommandLine
