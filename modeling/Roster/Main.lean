import Roster.Service
import Std.Time.DateTime.Timestamp

/-!
# The command

`roster` runs the service: it takes its settings from the environment and from the file `.env` of the current
directory, and stops in good order when its standard input ends.  Log lines go to the standard output.
-/

set_option autoImplicit false

namespace Roster

/-- The instant the clock of the machine shows. -/
def systemNow : IO Instant := do
  let t ← Std.Time.Timestamp.now
  return (Instant.ofNanos? t.toNanosecondsSinceUnixEpoch.val).getD .epoch

/-- The text of the settings file, nothing when there is none. -/
def settingsFile : IO String := do
  try IO.FS.readFile ".env" catch _ => return ""

/-- The variables of the environment that the service or its settings file may ask for. -/
def environment (file : String) : IO Variables := do
  let names := LogFilter.variableName :: Config.variableNames ++ EnvFile.mentioned file
  let found ← names.filterMapM fun name => return (← IO.getEnv name).map fun v => (name, v)
  return .ofEntries found

/-- Tell lines of the log. -/
def tell (lines : List LogLine) : IO Unit := do
  for line in lines do
    IO.println s!"{line.level.name} {line.text}"

/-- Read the standard input to its end. -/
partial def waitForEnd (input : IO.FS.Stream) : IO Unit := do
  let line ← input.getLine
  unless line.isEmpty do waitForEnd input

end Roster

open Roster in
def main : IO UInt32 := do
  let file ← settingsFile
  let (lines, result) := Service.start (← environment file) file (← systemNow)
  tell lines
  match result with
  | .error failure =>
    IO.eprintln failure.report
    return failure.exitCode
  | .ok service =>
    waitForEnd (← IO.getStdin)
    tell service.stop.1
    return 0
