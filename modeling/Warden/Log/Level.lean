import Warden.Failure

/-!
# Levels of log records

A level is an integer; the higher, the more severe. Six levels have names, and each of them has a
colour on a terminal; a level in between has the colour of the named level below it.

## Main definitions

* `Level`: a level, with `trace`, `debug`, `info`, `warning`, `error` and `critical`
* `Level.name`, `Level.label`: the name of a level, and what a record has for it
* `Level.color`: the terminal colour of a level
-/

namespace Warden.Log

/-- The severity of a record. -/
structure Level where
  severity : Int
  deriving DecidableEq, Repr, Inhabited

namespace Level

/-- The chatter of single ticks. -/
def trace : Level := ⟨5⟩

/-- Details for finding faults. -/
def debug : Level := ⟨10⟩

/-- What happens in normal use. -/
def info : Level := ⟨20⟩

/-- What may need a look. -/
def warning : Level := ⟨30⟩

/-- What went wrong. -/
def error : Level := ⟨40⟩

/-- What stops the program. -/
def critical : Level := ⟨50⟩

instance : LE Level := ⟨fun a b => a.severity ≤ b.severity⟩

instance (a b : Level) : Decidable (a ≤ b) :=
  inferInstanceAs (Decidable (a.severity ≤ b.severity))

/-- The more severe of two levels. -/
def max (a b : Level) : Level :=
  if a ≤ b then b else a

/-- The levels that have a name. -/
def names : List (Level × String) :=
  [(⟨0⟩, "NOTSET"), (trace, "TRACE"), (debug, "DEBUG"), (info, "INFO"), (warning, "WARNING"),
    (error, "ERROR"), (critical, "CRITICAL")]

/-- The name of a level; a level without one is named by its number. -/
def name (level : Level) : String :=
  match names.find? (·.1 == level) with
  | some (_, word) => word
  | none => s!"Level {level.severity}"

/-- What a record has for the name of its level. A number that names a level has to be written. -/
def label (level : Level) : Except Failure String :=
  if names.any (·.1 == level) || Numeric.Literal.isWritable level.severity then .ok level.name
  else .error (.literal .unwritable)

/-- The levels that can be asked for by name. -/
def selectable : List (Level × String) :=
  [(trace, "TRACE"), (debug, "DEBUG"), (info, "INFO"), (warning, "WARNING"), (error, "ERROR"),
    (critical, "CRITICAL")]

/-- The level that a name asks for. -/
def named? (word : String) : Option Level :=
  (selectable.find? (·.2 == word)).map (·.1)

/-- The colours of levels, the most severe first. -/
def colors : List (Level × String) :=
  [(critical, "\x1b[41m"), (error, "\x1b[31m"), (warning, "\x1b[33m"), (info, "\x1b[37m"),
    (debug, "\x1b[36m"), (trace, "\x1b[32m")]

/-- The terminal colour of a level: that of the nearest coloured level not above it. -/
def color (level : Level) : String :=
  match colors.find? (·.1 ≤ level) with
  | some (_, code) => code
  | none => ""

end Level

end Warden.Log
