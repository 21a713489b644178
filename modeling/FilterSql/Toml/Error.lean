import FilterSql.Record
import FilterSql.Text.Excerpt
import FilterSql.Toml.Tree

/-!
# Errors in TOML files

A file is in error if its text is malformed, or if a value in it does not have the form that it
should have. An error is shown with the line where it stands.

## Main definitions

* `FilterSql.Toml.NamingProblem`: why a value gives no name.
* `FilterSql.Toml.Problem`, `FilterSql.Toml.Error`: what is wrong, and where.
* `FilterSql.Toml.Error.message`: the wording, with an excerpt from the file.
-/

namespace FilterSql.Toml

open Text

/-- Why a value gives no name out of a list. -/
inductive NamingProblem where
  /-- It is neither a text nor a table. -/
  | noName
  /-- It is a pair of braces with nothing between them. -/
  | emptyBraces
  /-- It has several keys between braces. -/
  | severalKeys
  /-- It is a table without keys. -/
  | emptyTable
  /-- The table that goes with the name is not empty. -/
  | fullTable
  /-- The list that goes with the name is not empty. -/
  | fullList
  /-- What goes with the name is neither a table nor a list. -/
  | noTable (kind : String)
deriving DecidableEq, Repr

/-- The wording of a problem with a name. -/
def NamingProblem.message : NamingProblem → String
  | noName => "wanted string or table"
  | emptyBraces => "wanted exactly 1 element, found 0 elements"
  | severalKeys => "wanted exactly 1 element, more than 1 element"
  | emptyTable => "expected table with exactly 1 entry, found empty table"
  | fullTable => "expected empty table"
  | fullList => "expected empty array"
  | noTable kind => "expected table, found " ++ kind

/-- What is wrong with a file. -/
inductive Problem where
  /-- Its text is malformed. -/
  | malformed (m : Malformation)
  /-- A value does not have the form that it should have. -/
  | misfit (m : Record.Misfit)
  /-- A value gives no name out of a list. -/
  | naming (p : NamingProblem)
deriving DecidableEq, Repr

/-- The wording of a problem. -/
def Problem.message : Problem → String
  | malformed m => m.message
  | misfit m => m.message
  | naming p => p.message

/-- A problem with a file, and where it stands. -/
structure Error where
  /-- What is wrong. -/
  problem : Problem
  /-- Where it stands. -/
  stretch : Stretch

/-- The error that a fault is: it stands at the next character. -/
def Fault.toError (f : Fault) : Error :=
  ⟨.malformed f.problem, ⟨f.rest, f.rest.drop 1⟩⟩

/-- The wording of an error in a text, with an excerpt from it. -/
def Error.message (text : String) (e : Error) : String :=
  let start := byteCount e.stretch.start
  let spot := spotAt text (text.utf8ByteSize - start)
  let heading := "TOML parse error at line " ++ integer (spot.line + 1) ++ ", column " ++
    integer (spot.column + 1)
  let lines := heading :: excerpt text spot (start - byteCount e.stretch.stop) ++
    [e.problem.message]
  String.join (lines.map (· ++ "\n"))

end FilterSql.Toml
