import Std.Time.DateTime.Timestamp
import Warden.CommandLine.Launch

/-!
# The command line

The program reads the environment and the words of its command line, sets up logging and announces
where its pages are served. A command line that is wrong ends it with a message and the code 2.

## Main definitions

* `environment`: the variables that the settings come from
* `leave`: the end when the command line asks for no launch
* `main`: the program
-/

namespace Warden.CommandLine

/-- What the program is called in its messages. -/
def programName : String := "tcmg-commander"

/-- The variables that the settings come from. -/
def variableNames : List String :=
  ["TCMG_SERVER_BIN", "TCMG_CONFIG_DIR", "TCMG_DEBUG_LEVEL", "TCMG_AUTO_START", "TCMG_UI_HOST",
    "TCMG_UI_PORT", "TCMG_LOG_LEVEL"]

/-- The variables of the environment that are set. -/
def environment : IO Environment := do
  let read ← variableNames.mapM fun name => do return (name, ← IO.getEnv name)
  return read.filterMap fun (name, value) => value.map (name, ·)

/-- The configuration directory when nothing else is asked for: `data` in the working directory. -/
def defaultDirectory : IO String := do
  let place ← IO.currentDir
  return s!"{place}/data"

/-- How the program is used: the names of its options. -/
def usage : String :=
  let options := choices.map fun choice => "/".intercalate choice.names
  s!"usage: {programName} " ++ " ".intercalate (options.map fun names => s!"[{names}]")

/-- The end of the program when a command line asks for no launch. -/
def leave (exit : Exit) : IO UInt32 := do
  match exit with
  | .help =>
    IO.println usage
    return 0
  | .misuse message =>
    IO.eprintln usage
    IO.eprintln s!"{programName}: error: {message}"
    return 2

end Warden.CommandLine

open Warden in
/-- The program. -/
def main (words : List String) : IO UInt32 := do
  let read :=
    Settings.ofEnvironment (← CommandLine.defaultDirectory) (← CommandLine.environment)
  match read with
  | .error failure =>
    IO.eprintln failure.text
    return 1
  | .ok settings =>
    let console ← IO.getStderr
    let moment ← Std.Time.Timestamp.now
    let desk : Log.Desk := { terminal := ← console.isTty }
    let report := CommandLine.run words moment.toSecondsSinceUnixEpoch.val
      (.ofSettings settings desk)
    -- what was logged comes before the end
    console.putStr report.state.desk.written
    match report.outcome with
    | .error failure =>
      IO.eprintln failure.text
      return 1
    | .ok (.error exit) => CommandLine.leave exit
    | .ok (.ok _) => return 0
