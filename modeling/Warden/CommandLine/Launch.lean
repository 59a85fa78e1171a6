import Warden.CommandLine.Options
import Warden.Log.Root
import Warden.Settings

/-!
# Launching the commander

The command line of the commander changes the settings that the environment asks for. The commander
then sets up logging and serves its pages.

## Main definitions

* `Key`: the options of the commander
* `Request`: what the options ask for
* `Orders`: the settings with what the options ask for
* `Orders.ofWords`: the orders that the words of a command line come to
* `launch`: the start of the commander with its orders
* `Commander`, `run`: the commander, and how it reads its command line
-/

namespace Warden.CommandLine

/-- The options of the commander. -/
inductive Key where
  | help
  | host
  | port
  | serverProgram
  | configDirectory
  | debugLevel
  | logLevel
  | verbose
  | quiet
  | autoStart
  deriving DecidableEq, Repr

/-- The options with their names. -/
def choices : List (Choice Key) :=
  [⟨.help, ["-h", "--help"], false⟩, ⟨.host, ["--host"], true⟩, ⟨.port, ["--port"], true⟩,
    ⟨.serverProgram, ["--server-bin"], true⟩, ⟨.configDirectory, ["--config-dir"], true⟩,
    ⟨.debugLevel, ["--debug-level"], true⟩, ⟨.logLevel, ["--log-level"], true⟩,
    ⟨.verbose, ["-v", "--verbose"], false⟩, ⟨.quiet, ["-q", "--quiet"], false⟩,
    ⟨.autoStart, ["--auto-start"], false⟩]

/-- What an option asks for, if it is given: a value, or none when the value is left blank. -/
abbrev Asked (α : Type) := Option (Option α)

/-- What the options ask for. -/
structure Request where
  host : Asked String := none
  port : Asked Int := none
  serverProgram : Asked String := none
  configDirectory : Asked String := none
  debugLevel : Asked Int := none
  logLevel : Asked Log.Level := none
  verbosity : Nat := 0
  quiet : Bool := false
  autoStart : Bool := false
  deriving DecidableEq, Repr

/-- An option whose value is an integer. -/
def integerOf (choice : Choice Key) (word : String) : Except Exit Int :=
  match Numeric.Literal.readDecimal word with
  | .ok n => .ok n
  | .error _ => .error (choice.misuse s!"invalid int value: {Text.quoted word}")

/-- An option whose value is not among those to choose from. -/
def notAmong (choice : Choice Key) (given : String) (all : List String) : Exit :=
  let list := ", ".intercalate all
  choice.misuse s!"invalid choice: {given} (choose from {list})"

/-- The debug levels to choose from. -/
def debugLevels : List Int :=
  (List.range 10).map fun (n : Nat) => Failure.lowestDebugLevel + n

/-- An option whose value is a debug level. -/
def debugLevelOf (choice : Choice Key) (word : String) : Except Exit Int := do
  let level ← integerOf choice word
  if debugLevels.contains level then .ok level
  else .error (notAmong choice (toString level) (debugLevels.map toString))

/-- An option whose value names a level of logging. -/
def logLevelOf (choice : Choice Key) (word : String) : Except Exit Log.Level :=
  match Log.Level.named? word with
  | some level => .ok level
  | none =>
    let words := Log.Level.selectable.map fun (_, name) => Text.quoted name
    .error (notAmong choice (Text.quoted word) words)

/-- The request with one more option. A later option takes the place of an earlier one. -/
def Request.apply (request : Request) (choice : Choice Key) (value : Option String) :
    Except Exit Request := do
  match choice.key with
  | .help => .error .help
  | .host => return { request with host := some value }
  | .port => return { request with port := some (← value.mapM (integerOf choice)) }
  | .serverProgram => return { request with serverProgram := some value }
  | .configDirectory => return { request with configDirectory := some value }
  | .debugLevel => return { request with debugLevel := some (← value.mapM (debugLevelOf choice)) }
  | .logLevel => return { request with logLevel := some (← value.mapM (logLevelOf choice)) }
  | .verbose => return { request with verbosity := request.verbosity + 1 }
  | .quiet => return { request with quiet := true }
  | .autoStart => return { request with autoStart := true }

/-- What a command line asks for. -/
def Request.ofWords (words : List String) : Except Exit Request :=
  parse choices Request.apply {} words

/-- The level of logging: the one that is named, else the one that the verbosity or quietness asks
for. -/
def Request.level? (request : Request) : Option Log.Level :=
  match request.logLevel.join, request.verbosity with
  | some level, _ => some level
  | none, 0 => if request.quiet then some .warning else none
  | none, 1 => some .info
  | none, 2 => some .debug
  | none, _ => some .trace

/-- The settings with what the options ask for. What is left blank is none. -/
structure Orders where
  serverProgram : Option String
  configDirectory : Option String
  debugLevel : Option Int
  autoStart : Bool
  host : Option String
  port : Int
  logLevel : Log.Level
  deriving DecidableEq, Repr

/-- The port that a request comes to. It cannot be left blank. -/
def Request.portOr (request : Request) (usual : Int) : Except Failure Int :=
  match request.port with
  | none => .ok usual
  | some (some port) => .ok port
  | some none => .error (.notANumber (Value.list []).kindName)

/-- The orders before the command line is read: the settings. -/
def Orders.ofSettings (settings : Settings) : Orders where
  serverProgram := some settings.serverProgram
  configDirectory := settings.configDirectory
  debugLevel := some settings.debugLevel
  autoStart := settings.autoStart
  host := some settings.host
  port := settings.port
  logLevel := settings.logLevel

/-- The orders that a request comes to. An empty configuration directory is none. -/
def Request.orders (request : Request) (before : Orders) : Except Failure Orders := do
  return {
    serverProgram := request.serverProgram.getD before.serverProgram
    configDirectory := (request.configDirectory.getD before.configDirectory).bind Text.nonEmpty?
    debugLevel := request.debugLevel.getD before.debugLevel
    autoStart := request.autoStart || before.autoStart
    host := request.host.getD before.host
    port := ← request.portOr before.port
    logLevel := request.level?.getD before.logLevel }

/-- The orders that the words of a command line come to, or the end that they ask for. -/
def Orders.ofWords (settings : Settings) (words : List String) :
    Except Failure (Except Exit Orders) :=
  match Request.ofWords words with
  | .error exit => .ok (.error exit)
  | .ok request => (request.orders (.ofSettings settings)).map .ok

/-- How the pages are served. -/
structure Serving where
  host : Option String
  port : Int
  reload : Bool := false
  opensBrowser : Bool := false
  title : String := "TCMG Commander"
  deriving DecidableEq, Repr

/-- A text that may have been left blank as it stands in a message. -/
def blankText (text : Option String) : String :=
  text.getD "[]"

/-- The start of the commander with its orders at a moment: logging is set up, and the pages are
served. The host keeps universal time. -/
def launch (orders : Orders) (moment : Int) : Act Log.Desk Serving := do
  let announce := fun message => Log.Desk.log ((⟨.info, message⟩ : Log.Record).toEntry moment)
  Log.Desk.configure { level := orders.logLevel }
  announce s!"Webserver bind: host={blankText orders.host} port={orders.port}"
  let program := blankText orders.serverProgram
  let directory := Text.orNone orders.configDirectory
  announce s!"Server binary: {program} config_dir={directory}"
  return { host := orders.host, port := orders.port }

/-- The commander: its orders, the program of its server, and its log. -/
structure Commander where
  orders : Orders
  serverProgram : Option String
  desk : Log.Desk

/-- The commander before the command line is read. -/
def Commander.ofSettings (settings : Settings) (desk : Log.Desk) : Commander where
  orders := .ofSettings settings
  serverProgram := some settings.serverProgram
  desk

/-- The commander reads its command line at a moment. The host is taken over before a port that is
left blank is refused. -/
def run (words : List String) (moment : Int) : Act Commander (Except Exit Serving) := do
  match Request.ofWords words with
  | .error exit => return .error exit
  | .ok request =>
    Act.modify fun c => { c with orders := { c.orders with host := request.host.getD c.orders.host } }
    let orders ← Act.ofExcept (request.orders (← Act.view Commander.orders))
    Act.modify fun c => { c with orders, serverProgram := orders.serverProgram }
    let serving ← (launch orders moment).within Commander.desk fun c desk => { c with desk }
    return .ok serving

end Warden.CommandLine
