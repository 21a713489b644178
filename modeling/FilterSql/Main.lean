import FilterSql.CommandLine.Run
import Std.Time

/-!
# The program

The command line of this process, run against its files and its clock.
-/

namespace FilterSql

open CommandLine

/-- Why a file cannot be read. -/
def fileProblem : IO.Error → FileProblem
  | .noFileOrDirectory .. => .missing
  | .inappropriateType _ code _ => if code = 20 then .notDirectory else .directory
  | .invalidArgument _ 36 _ => .nameTooLong
  | .permissionDenied .. => .other "Permission denied (os error 13)"
  | .userError _ => .other "stream did not contain valid UTF-8"
  | e => .other (toString e)

/-- The text of a file, or why it cannot be read. -/
def readFile (path : String) : IO (Except FileProblem String) := do
  try
    return .ok (← IO.FS.readFile path)
  catch e =>
    return .error (fileProblem e)

/-- The time of this machine. -/
def readClock : IO Timestamp := do
  let now ← Std.Time.PlainDateTime.now
  let second := now.hour.toInt * 3600 + now.minute.toInt * 60 + now.second.toInt
  match Date.ofYmd? now.year now.month.toNat now.day.toNat with
  | some date => return .ofClock date (second.toNat * 1000000000 + now.nanosecond.toInt.toNat)
  | none => throw (IO.userError "the clock is out of range")

/-- The file of settings of this user. -/
def findSettings : IO (Option String) := do
  let directory ← match ← IO.getEnv "XDG_CONFIG_HOME" with
    | some directory =>
      if directory.startsWith "/" then pure (some directory)
      else (·.map (· ++ "/.config")) <$> IO.getEnv "HOME"
    | none => (·.map (· ++ "/.config")) <$> IO.getEnv "HOME"
  return directory.map (· ++ "/winnow/catalog.toml")

end FilterSql

open FilterSql CommandLine

/-- Run the command line of this process. -/
def main (words : List String) : IO UInt32 := do
  let databaseUrl ← IO.getEnv "WINNOW_DATABASE_URL"
  let settingsFile ← findSettings
  let paths := match Request.read words databaseUrl with
    | .ok request => request.paths settingsFile
    | .error _ => []
  let texts ← paths.mapM fun path => return (path, ← readFile path)
  let around : Surroundings :=
    { file := fun path => (texts.lookup path).getD (.error .missing)
      settingsFile, databaseUrl, now := ← readClock }
  let outcome := run around words
  IO.print outcome.output
  IO.eprint outcome.problem
  return UInt32.ofNat outcome.code
