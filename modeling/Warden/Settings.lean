import Warden.Failure
import Warden.Log.Level
import Warden.Text.Blank
import Warden.Text.Case
import Warden.Text.Line

/-!
# Settings

What the commander runs with: which server with which configuration directory, where its pages are
served, and what is logged. Settings come from the environment; the command line may change them.

## Main definitions

* `Settings`: the settings
* `Environment`: the variables of the environment
* `Settings.ofEnvironment`: the settings that the environment asks for
-/

namespace Warden

/-- What the commander runs with. -/
structure Settings where
  serverProgram : String := "tcmg"
  configDirectory : Option String
  debugLevel : Int := 0
  autoStart : Bool := false
  host : String := "0.0.0.0"
  port : Int := 8090
  logLevel : Log.Level := .warning
  deriving DecidableEq, Repr

/-- The variables of an environment. -/
abbrev Environment := List (String × String)

namespace Settings

/-- The value of a variable. -/
def lookUp (environment : Environment) (name : String) : Option String :=
  (environment.find? (·.1 == name)).map (·.2)

/-- The words that switch something on. -/
def affirmations : List String := ["1", "true", "True", "yes", "YES", "on"]

/-- The level that a word asks for, blanks and case aside; any other word asks for warnings. -/
def logLevelOf (word : Option String) : Log.Level :=
  match word with
  | none => .warning
  | some word =>
    let name := String.ofList (Text.toUpper (Text.trim word.toList))
    (Log.Level.named? name).getD .warning

/-- A debug level brought into the range of the server. -/
def clampDebugLevel (level : Int) : Int :=
  max Failure.lowestDebugLevel (min Failure.highestDebugLevel level)

/-- The debug level that a word asks for; what is no integer asks for the lowest. -/
def debugLevelOf (word : Option String) : Int :=
  match Numeric.Literal.readDecimal ((word.bind Text.nonEmpty?).getD "0") with
  | .ok level => clampDebugLevel level
  | .error _ => Failure.lowestDebugLevel

/-- The settings that the environment asks for. A port that is no integer is refused, and so is a
variable whose value no environment holds. -/
def ofEnvironment (defaultDirectory : String) (environment : Environment) :
    Except Failure Settings := do
  if let some failure := environment.findSome? fun (_, value) => Failure.ofText? value then
    .error failure
  let asked := lookUp environment
  let defaults : Settings := { configDirectory := Text.nonEmpty? defaultDirectory }
  let port ← match asked "TCMG_UI_PORT" with
    | none => .ok defaults.port
    | some word =>
      match Numeric.Literal.readDecimal word with
      | .ok port => .ok port
      | .error fault => .error (.literal fault)
  return {
    serverProgram := (asked "TCMG_SERVER_BIN").getD defaults.serverProgram
    configDirectory := Text.nonEmpty? ((asked "TCMG_CONFIG_DIR").getD defaultDirectory)
    debugLevel := debugLevelOf (asked "TCMG_DEBUG_LEVEL")
    autoStart := affirmations.contains ((asked "TCMG_AUTO_START").getD "0")
    host := (asked "TCMG_UI_HOST").getD defaults.host
    port := port
    logLevel := logLevelOf (asked "TCMG_LOG_LEVEL") }

end Settings

end Warden
