import DenseBench.CommandLine

/-!
# The program

Files and environment variables are read, and the log is written to the standard error output.
-/

open DenseBench

/-- The paths at which a configuration may be found. -/
def configurationPaths : List String :=
  RunConfig.usualPaths ++ RunConfig.usualPaths.flatMap fun path =>
    Settings.FileFormat.extensions.map fun (extension, _) => path ++ "." ++ extension

/-- What stands at a path, if anything does. -/
def readEntry (path : String) : IO (Option (String × String)) := do
  try
    return some (path, (String.fromUTF8? (← IO.FS.readBinFile path)).getD "")
  catch
    | .noFileOrDirectory .. => return none
    | _ => return some (path ++ "/", "")

/-- The variables in a list of texts of the form `name=value` that null characters end. -/
def variablesOf (text : String) : List (String × String) :=
  (text.splitOn "\x00").filterMap fun entry =>
    match entry.splitOn "=" with
    | name :: value :: rest => some (name, "=".intercalate (value :: rest))
    | _ => none

/-- Run the program. -/
def main : IO UInt32 := do
  let entries ← configurationPaths.filterMapM readEntry
  let environment ← IO.FS.readFile "/proc/self/environ"
  let finished := CommandLine.run
    { files := .ofPaths entries, environment := variablesOf environment }
  for line in finished.log do
    IO.eprintln ("[" ++ line.level.name ++ " " ++ line.target ++ "] " ++ line.message)
  return finished.exitCode.toUInt32
