import Warden.Log.Record

/-!
# Log panels

A log panel is a place on a page that takes log lines. Panels are attached and detached while the
program runs. A panel goes away when nobody refers to it any more, and a panel that fails to take a
line is detached. Some panels cannot be attached because they do not say when they go away.

## Main definitions

* `Panel`: one panel and the lines it has taken
* `Panels`: all panels ever made and those that are attached
* `Panels.attach`, `Panels.detach`, `Panels.drop`: changes of what is attached
* `Panels.push`, `Panels.emit`: a line for every attached panel
-/

namespace Warden.Log

/-- A log panel. -/
structure Panel where
  /-- The panel can be attached. -/
  attachable : Bool := true
  /-- The number of the first line that the panel fails to take, counted from 1. -/
  failsAt : Option Nat := none
  /-- Somebody refers to the panel. -/
  alive : Bool := true
  /-- The lines that were pushed to the panel, taken or not, the last one first. -/
  offered : List String := []
  /-- The lines that the panel has taken, the last one first. -/
  taken : List String := []
  deriving Inhabited

/-- The panel after a line was pushed to it, and whether it took the line. -/
def Panel.push (panel : Panel) (line : String) : Panel × Bool :=
  let offered := line :: panel.offered
  match panel.failsAt with
  | some first =>
    if first ≤ offered.length then ({ panel with offered }, false)
    else ({ panel with offered, taken := line :: panel.taken }, true)
  | none => ({ panel with offered, taken := line :: panel.taken }, true)

/-- The failure to attach or to detach a panel that does not say when it goes away. -/
structure Unattachable where
  id : Nat
  deriving DecidableEq, Repr

/-- All panels ever made, numbered in order, and the numbers of the attached ones. A panel that went
away stays among these until a line is pushed. -/
structure Panels where
  made : Array Panel := #[]
  attached : List Nat := []
  deriving Inhabited

namespace Panels

/-- The panels with one more, and its number. -/
def make (panels : Panels) (panel : Panel) : Panels × Nat :=
  ({ panels with made := panels.made.push panel }, panels.made.size)

/-- The panel of a number is alive. -/
def isAlive (panels : Panels) (id : Nat) : Bool :=
  match panels.made[id]? with
  | some panel => panel.alive
  | none => false

/-- The panel of a number can be attached. -/
def isAttachable (panels : Panels) (id : Nat) : Bool :=
  match panels.made[id]? with
  | some panel => panel.attachable
  | none => false

/-- A panel is attached no more. -/
def discard (panels : Panels) (id : Nat) : Panels :=
  { panels with attached := panels.attached.filter (· != id) }

/-- Adds a panel to the attached ones, once. -/
def add (panels : Panels) (id : Nat) : Except Unattachable Panels :=
  if panels.isAttachable id then
    if panels.attached.contains id then .ok panels
    else .ok { panels with attached := panels.attached ++ [id] }
  else .error ⟨id⟩

/-- Removes a panel from the attached ones. -/
def remove (panels : Panels) (id : Nat) : Except Unattachable Panels :=
  if panels.isAttachable id then .ok (panels.discard id) else .error ⟨id⟩

/-- Attaches a panel, if it can be attached. -/
def attach (panels : Panels) (id : Nat) : Panels :=
  match panels.add id with
  | .ok after => after
  | .error _ => panels

/-- Detaches a panel, if it can be attached. -/
def detach (panels : Panels) (id : Nat) : Panels :=
  match panels.remove id with
  | .ok after => after
  | .error _ => panels

/-- The last reference to a panel goes away. -/
def drop (panels : Panels) (id : Nat) : Panels :=
  { panels with made := panels.made.modify id fun panel => { panel with alive := false } }

/-- The number of attached panels that are alive. -/
def count (panels : Panels) : Nat :=
  panels.attached.countP panels.isAlive

/-- A line for one attached panel. It is detached if it is gone or fails to take the line. -/
def pushTo (panels : Panels) (line : String) (id : Nat) : Panels :=
  match panels.made[id]? with
  | none => panels.discard id
  | some panel =>
    if panel.alive then
      let (after, took) := panel.push line
      let updated := { panels with made := panels.made.set! id after }
      if took then updated else updated.discard id
    else panels.discard id

/-- A line for every attached panel. -/
def push (panels : Panels) (line : String) : Panels :=
  panels.attached.foldl (fun panels id => panels.pushTo line id) panels

/-- An entry for every attached panel. Without any attached panel its line is not made up. -/
def emit (panels : Panels) (entry : Entry) : Except Failure Panels :=
  if panels.attached.isEmpty then .ok panels
  else return panels.push (← entry.panelLine)

end Panels

end Warden.Log
