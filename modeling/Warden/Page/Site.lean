import Warden.Log.Panels
import Warden.Poller.Observers
import Warden.Settings

/-!
# The site

The site is what visitors of the commander see and what it keeps for them: a page for each visit,
the log panels of the pages, stored settings, and the alerts and scripts that were sent to
browsers. Pages observe the network and the log as long as their visitor is there.

## Main definitions

* `Page`: the page of one visit
* `Site`: all pages beside the outside world
* `Watcher`: an observer of the poller: a page, or a guest
* `Premises`: the poller with the site
* `deliver`: what the panels take of a log
-/

namespace Warden

open Warden.Schedule (Agenda)

/-- The page of one visit. What is not stored here is shown as the display has it. -/
structure Page where
  /-- The visitor is there. -/
  isOpen : Bool := true
  /-- The switch for the start on boot. -/
  startsOnBoot : Bool
  /-- The buttons that lead to the web interface can be pressed. -/
  primaryEnabled : Bool
  accessPointEnabled : Bool
  /-- The follower of the server log, until the log is detached. -/
  follower : Option Nat := none
  /-- The server log as it is shown. -/
  logText : String := ""
  /-- The number of its lines as it is shown. -/
  lineCount : Nat := 0
  /-- The log panel for the records of the commander. -/
  panel : Nat
  deriving Inhabited

/-- The tone of an alert. -/
inductive Tone where
  | negative
  | warning
  deriving DecidableEq, Repr

/-- The tone as it is written. -/
def Tone.text : Tone → String
  | .negative => "negative"
  | .warning => "warning"

/-- A message that appears for a while. -/
structure Alert where
  message : String
  tone : Tone
  deriving DecidableEq, Repr

/-- All pages beside the outside world. -/
structure Site (ε : Type) where
  outside : ε
  settings : Settings
  /-- The stored settings. -/
  storage : List (String × Value) := []
  pages : Array Page := #[]
  panels : Log.Panels := {}
  /-- The level of the relay that takes log records to the panels, if there is one. -/
  relay : Option Log.Level := none
  /-- The alerts, the last one first. -/
  alerts : List Alert := []
  /-- The scripts that browsers were told to run, the last one first. -/
  scripts : List String := []

/-- An observer of the poller. -/
inductive Watcher (ω : Type) where
  /-- A page that observes the network. -/
  | network (page : Nat)
  /-- A page that observes the server log. -/
  | log (page : Nat)
  | guest (observer : ω)
  deriving DecidableEq

/-- The poller with the site. -/
abbrev Premises (ω ε : Type) := Polling (Watcher ω) (Site ε)

namespace Site

variable {ω ε α : Type}

/-- The outside world of the poller is that of the site. -/
def around (outer : Surroundings ε) : Surroundings (Site ε) :=
  outer.within outside fun site outside => { site with outside }

/-- Something the site shows. -/
def look (f : Site ε → α) : Act (Premises ω ε) α :=
  Poller.outside (Act.view f)

/-- Changes the site. -/
def change (f : Site ε → Site ε) : Act (Premises ω ε) Unit :=
  Poller.outside (Act.modify f)

/-- An act on the outside world of the site. -/
def beyond (act : Act ε α) : Act (Premises ω ε) α :=
  Poller.outside (act.within outside fun site outside => { site with outside })

/-- Changes the page of a number. -/
def changePage (number : Nat) (f : Page → Page) : Act (Premises ω ε) Unit :=
  change fun site => { site with pages := site.pages.modify number f }

/-- A new log panel; answers its number. -/
def addPanel : Act (Premises ω ε) Nat := do
  let (panels, number) ← look fun site => site.panels.make {}
  change fun site => { site with panels }
  return number

/-- A new page; answers its number. -/
def addPage (page : Page) : Act (Premises ω ε) Nat := do
  let number ← look fun site => site.pages.size
  change fun site => { site with pages := site.pages.push page }
  return number

/-- Shows an alert. -/
def alert (message : String) (tone : Tone) : Act (Premises ω ε) Unit :=
  change fun site => { site with alerts := ⟨message, tone⟩ :: site.alerts }

/-- Tells the browser to run a script. -/
def runScript (script : String) : Act (Premises ω ε) Unit :=
  change fun site => { site with scripts := script :: site.scripts }

/-- A stored setting. -/
def stored? (site : Site ε) (key : String) : Option Value :=
  (site.storage.find? (·.1 == key)).map (·.2)

/-- Stores a setting. -/
def store (key : String) (value : Value) : Act (Premises ω ε) Unit :=
  change fun site => { site with storage := site.storage.filter (·.1 != key) ++ [(key, value)] }

/-- The site after something happened to the log. The relay takes a record to the panels that are
open by then. -/
def heard (site : Site ε) (moment : Int) (item : Log.Item) : Site ε :=
  match item with
  | .opened panel => { site with panels := site.panels.attach panel }
  | .closed panel => { site with panels := site.panels.detach panel }
  | .record record =>
    match site.relay, (record.toEntry moment).panelLine with
    | some level, .ok line =>
      if level ≤ record.level then { site with panels := site.panels.push line } else site
    | _, _ => site

/-- What happened to the log reaches the panels. -/
def deliver (log : List Log.Item) : Act (Premises ω ε) Unit := do
  let moment ← Act.view fun premises => premises.timeline.now.wholePart
  change fun site => log.foldl (·.heard moment) site

/-- An act whose log reaches the panels once it is over. -/
def aloud (act : Act (Premises ω ε) α) : Act (Premises ω ε) α := fun premises =>
  let report := act premises
  { report with state := (deliver report.log report.state).state }

end Site

end Warden
