import ChartQuery.CommandLine.Run

/-!
# The program

The outer layer of the command line: it looks at the world and does what is to be done.
-/

open ChartQuery.CommandLine

namespace ChartQuery.Main

/-- The path of the settings if no source is given. -/
def settingsPath : IO String := do
  let directory ← do
    match (← IO.getEnv "XDG_CONFIG_HOME"), (← IO.getEnv "HOME") with
    | some d, h? =>
      if d.startsWith "/" then pure d else pure ((h?.map (· ++ "/.config")).getD ".")
    | none, h? => pure ((h?.map (· ++ "/.config")).getD ".")
  return directory ++ "/gqlsql/config.toml"

/-- The content of the file that a path leads to. -/
def readFile? (path : String) : IO (Option (Option String)) := do
  try
    return some (String.fromUTF8? (← IO.FS.readBinFile path))
  catch
    | .permissionDenied .. => return some none
    | _ => return none

/-- The values of the variables that the program looks at. -/
def readEnvironment : IO (List (String × String)) :=
  ("QUERY_STRING" :: Connection.passwordVariables).filterMapM fun name => do
    return (← IO.getEnv name).map fun value => (name, value)

/-- The world as far as the arguments make the program look at it. -/
def look (words : List String) : IO Surroundings := do
  let environment ← readEnvironment
  let defaultPath ← settingsPath
  let path := match Arguments.parse words with
    | .ok a => a.source?.getD defaultPath
    | .error _ => defaultPath
  let content ← readFile? path
  return ⟨fun name => environment.lookup name, fun p => if p = path then content else none,
    defaultPath, fun _ => Source.unavailable⟩

end ChartQuery.Main

/-- Runs the program on its arguments. -/
def main (words : List String) : IO UInt32 := do
  let outcome := run (← ChartQuery.Main.look words) words
  let output ← IO.getStdout
  output.write ⟨outcome.output.toArray⟩
  output.flush
  IO.eprint outcome.errors
  return UInt32.ofNat outcome.code
