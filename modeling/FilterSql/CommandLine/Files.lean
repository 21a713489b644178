/-!
# Files

The files that a request reads are named by paths. A path is followed name by name, from the root if
it begins with a slash and from the working directory otherwise; an empty name and a single dot stay
where they are, and two dots go up. Every place on the way but the last has to be a directory.

## Main definitions

* `FilterSql.CommandLine.FileProblem`, `FilterSql.CommandLine.FileProblem.message`: why a file
  cannot be read.
* `FilterSql.CommandLine.FileTree`: files in memory.
* `FilterSql.CommandLine.FileTree.read`: the text of the file that a path names.
-/

namespace FilterSql.CommandLine

/-- Why a file cannot be read. -/
inductive FileProblem where
  /-- There is nothing of this name. -/
  | missing
  /-- A file stands where a directory is needed. -/
  | notDirectory
  /-- The path names a directory. -/
  | directory
  /-- The path, or a name in it, is too long. -/
  | nameTooLong
  /-- Another reason. -/
  | other (reason : String)
deriving DecidableEq, Repr

/-- The wording of a problem with a file. -/
def FileProblem.message : FileProblem → String
  | missing => "No such file or directory (os error 2)"
  | notDirectory => "Not a directory (os error 20)"
  | directory => "Is a directory (os error 21)"
  | nameTooLong => "File name too long (os error 36)"
  | other reason => reason

/-- A place below the root: the names on the way to it. -/
abbrev Place := List String

/-- Files in memory. -/
structure FileTree where
  /-- The files, each with its text. -/
  files : List (Place × String)
  /-- Directories beside those in which the files lie. -/
  directories : List Place

namespace FileTree

/-- Whether a directory stands at a place: the root, one that is listed, or one on the way to
another place. -/
def isDirectory (t : FileTree) (place : Place) : Bool :=
  place.isEmpty || t.directories.any place.isPrefixOf ||
    t.files.any fun f => place.isPrefixOf f.1 && place.length < f.1.length

/-- Whether anything stands at a place. -/
def occupied (t : FileTree) (place : Place) : Bool :=
  t.isDirectory place || (t.files.lookup place).isSome

/-- The greatest number of bytes of a name. -/
def maxNameSize : Nat := 255

/-- The greatest number of bytes of a path. -/
def maxPathSize : Nat := 4095

/-- The place that names lead to from another place. -/
def follow (t : FileTree) (place : Place) : List String → Except FileProblem Place
  | [] => .ok place
  | name :: rest =>
    if !t.isDirectory place then .error .notDirectory
    else if name = "" || name = "." then t.follow place rest
    else if name = ".." then t.follow place.dropLast rest
    else if maxNameSize < name.utf8ByteSize then .error .nameTooLong
    else if t.occupied (place ++ [name]) then t.follow (place ++ [name]) rest
    else .error .missing

/-- The text of the file that a path names. -/
def read (t : FileTree) (workingDirectory : Place) (path : String) : Except FileProblem String := do
  if path.isEmpty then throw .missing
  if maxPathSize < path.utf8ByteSize then throw .nameTooLong
  let start := if path.startsWith "/" then [] else workingDirectory
  let place ← t.follow start (path.splitOn "/")
  match t.files.lookup place with
  | some text => return text
  | none => throw .directory

end FileTree

end FilterSql.CommandLine
