import Warden.Log.Root

/-!
# Log panels by name

A rehearsal of logging names its log panels. A panel is made when its name is first used, and a name
is free again when its panel goes away.

## Main definitions

* `NamedPanels`: a desk and the names of its panels
* `NamedPanels.attach`, `NamedPanels.detach`, `NamedPanels.drop`: changes by name
* `NamedPanels.taken`: the lines that panels have taken since an earlier state
-/

namespace Warden.Rehearsal

/-- A desk and the numbers of its named panels. -/
structure NamedPanels where
  desk : Log.Desk := {}
  names : List (String × Nat) := []

namespace NamedPanels

/-- An act on the desk. -/
def onDesk {α : Type} (act : Act Log.Desk α) : Act NamedPanels α :=
  act.within desk fun named desk => { named with desk }

/-- The number of a panel by name. -/
def number? (named : NamedPanels) (name : String) : Option Nat :=
  (named.names.find? (·.1 == name)).map (·.2)

/-- A change of the panels. -/
def change (f : Log.Panels → Log.Panels) : Act NamedPanels Unit :=
  onDesk (Act.modify fun desk => { desk with panels := f desk.panels })

/-- The number of a panel by name; a new name gets the panel that is described. -/
def reach (name : String) (panel : Log.Panel) : Act NamedPanels Nat :=
  fun named =>
    match named.number? name with
    | some number => ⟨.ok number, named, []⟩
    | none =>
      let (panels, number) := named.desk.panels.make panel
      let names := named.names ++ [(name, number)]
      ⟨.ok number, { desk := { named.desk with panels }, names }, []⟩

/-- Attaches the panel of a name. -/
def attach (name : String) (panel : Log.Panel) : Act NamedPanels Unit := do
  let number ← reach name panel
  change (·.attach number)

/-- Detaches the panel of a name. -/
def detach (name : String) (panel : Log.Panel) : Act NamedPanels Unit := do
  let number ← reach name panel
  change (·.detach number)

/-- The panel of a name goes away. -/
def drop (name : String) : Act NamedPanels Unit := do
  match (← Act.get).number? name with
  | none => pure ()
  | some number =>
    change (·.drop number)
    Act.modify fun named => { named with names := named.names.filter (·.1 != name) }

/-- The lines that a panel has taken, the first one first. -/
def linesOf (named : NamedPanels) (number : Nat) : List String :=
  match named.desk.panels.made[number]? with
  | some panel => panel.taken.reverse
  | none => []

/-- The lines that panels have taken since an earlier state, by name. -/
def taken (earlier now : NamedPanels) : List (String × List String) :=
  let all := now.names.map fun (name, number) =>
    (name, (now.linesOf number).drop (earlier.linesOf number).length)
  all.filter fun (_, lines) => !lines.isEmpty

/-- What was written on the console since an earlier state. -/
def writtenSince (earlier now : NamedPanels) : String :=
  String.ofList (now.desk.written.toList.drop earlier.desk.written.length)

end NamedPanels

end Warden.Rehearsal
