import Warden.Act
import Warden.Log.Panels

/-!
# Where log entries go

Entries from its level on go to the handlers of the root logger, one after the other: consoles, and
relays into the log panels, each with a level of its own. Without any handler, warnings and worse are
written as bare messages on the console.

## Main definitions

* `Handler`: a console or a relay
* `Root`: the level of the root logger and its handlers
* `Root.configure`: the set-up of the commander
* `Desk`: the root logger with what it writes to
* `Desk.log`: an entry sent through the root logger
-/

namespace Warden.Log

/-- A handler of the root logger: a console, or a relay into the log panels. -/
inductive Handler where
  | console (level : Level) (colored : Bool)
  | relay (level : Level)
  deriving DecidableEq, Repr

namespace Handler

/-- The level of a handler. -/
def level : Handler → Level
  | console level _ => level
  | relay level => level

/-- A handler with another level. -/
def atLevel (level : Level) : Handler → Handler
  | console _ colored => console level colored
  | relay _ => relay level

/-- The handler is a console. -/
def isConsole : Handler → Bool
  | console .. => true
  | relay _ => false

/-- The handler is a relay into the log panels. -/
def isRelay : Handler → Bool
  | console .. => false
  | relay _ => true

/-- The handlers with one of a kind at the level of a given one: the first of its kind, or the given
one behind the others when there is none. -/
def ensure (isOfKind : Handler → Bool) (given : Handler) : List Handler → List Handler
  | [] => [given]
  | handler :: rest =>
    if isOfKind handler then handler.atLevel given.level :: rest
    else handler :: ensure isOfKind given rest

end Handler

/-- The root logger. -/
structure Root where
  level : Level := .warning
  handlers : List Handler := []
  deriving DecidableEq, Repr

/-- What the set-up asks for. -/
structure Setup where
  level : Level := .info
  colors : Bool := true
  relayed : Bool := true

namespace Root

/-- The console. -/
def console (root : Root) : Option Handler :=
  root.handlers.find? Handler.isConsole

/-- The level of the relay. -/
def relay (root : Root) : Option Level :=
  (root.handlers.find? Handler.isRelay).map Handler.level

/-- The root logger after the set-up. A console that is there keeps its colours, and a relay that is
there stays even when none is asked for. The relay takes no chatter below `info`. -/
def configure (root : Root) (terminal : Bool) (setup : Setup) : Root where
  level := setup.level
  handlers :=
    let console := .console setup.level (showsColors setup.colors terminal)
    let handlers := Handler.ensure Handler.isConsole console root.handlers
    if setup.relayed then
      Handler.ensure Handler.isRelay (.relay (setup.level.max .info)) handlers
    else handlers

/-- A record at a level goes through the root logger: the level is above zero and not below that of
the logger. -/
def takes (root : Root) (level : Level) : Bool :=
  0 < level.severity && root.level ≤ level

end Root

/-- The root logger with the text on the console and the log panels. -/
structure Desk where
  root : Root := {}
  /-- The console is a terminal. -/
  terminal : Bool := false
  /-- What was written on the console. -/
  written : String := ""
  panels : Panels := {}

namespace Desk

/-- A line on the console. An entry for which there is none is not shown. -/
def writeLine (line : Except Failure String) : Act Desk Unit :=
  match line with
  | .ok line => Act.modify fun desk => { desk with written := desk.written ++ line ++ "\n" }
  | .error _ => pure ()

/-- An entry for the log panels. -/
def emit (entry : Entry) : Act Desk Unit := do
  let panels ← Act.ofExcept ((← Act.get).panels.emit entry)
  Act.modify fun desk => { desk with panels }

/-- The set-up of the commander. -/
def configure (setup : Setup) : Act Desk Unit :=
  Act.modify fun desk => { desk with root := desk.root.configure desk.terminal setup }

/-- An entry for a handler, which takes it if it is not below its level. -/
def handle (entry : Entry) (handler : Handler) : Act Desk Unit := do
  if handler.level ≤ entry.level then
    match handler with
    | .console _ colored => writeLine (entry.consoleLine colored)
    | .relay _ => emit entry

/-- An entry that no handler takes. -/
def toNobody (entry : Entry) : Act Desk Unit := do
  if Level.warning ≤ entry.level then writeLine entry.message

/-- An entry sent through the root logger. There is none at a level without a label. -/
def log (entry : Entry) : Act Desk Unit := do
  let root ← Act.view Desk.root
  if root.takes entry.level then
    discard (Act.ofExcept entry.level.label)
    if root.handlers.isEmpty then toNobody entry
    else root.handlers.forM (handle entry)

end Desk

end Warden.Log
