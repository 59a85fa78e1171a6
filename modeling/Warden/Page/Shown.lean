import Warden.Page.Actions

/-!
# What a page shows

The texts on a page, its buttons and its log panel.

## Main definitions

* `Page.labels`: the texts, in the order in which they stand on the page
* `Page.buttons`: the buttons and whether they can be pressed
* `Page.records`: the lines of the log panel
-/

namespace Warden.Page

/-- The number of lines that a log panel shows at most. -/
def panelLines : Nat := 500

/-- What is written on the tabs. -/
def tabs : List String := ["Control", "Log"]

/-- The state of the server as it is shown. -/
def stateLabel (display : Display) : String :=
  if display.isRunning then "RUNNING" else "STOPPED"

/-- The uptime of the server as it is shown. -/
def uptimeLabel (display : Display) : String :=
  match Text.nonEmpty? display.uptimeText with
  | some time => s!"Uptime {time}"
  | none => ""

/-- The port of the web interface as it is shown. -/
def portLabel (display : Display) : String :=
  match display.webifPort with
  | some port => if port != 0 then s!"WebIF :{port}" else "WebIF -"
  | none => "WebIF -"

/-- An address as it is shown. -/
def addressLabel (title : String) (reach : Reach) : String :=
  let place := (reach.address.bind Text.nonEmpty?).getD "n/a"
  s!"{title}: {place}"

/-- The number of lines of the server log as it is shown. -/
def countLabel (page : Page) : String :=
  s!"{page.lineCount} lines"

/-- The texts of a page, in the order in which they stand there. -/
def labels (display : Display) (page : Page) : List String :=
  ["TCMG Commander", "Server", stateLabel display, uptimeLabel display, portLabel display,
    display.lastError.getD "", "Network", addressLabel "Wi-Fi/LAN" display.primary,
    addressLabel "Hotspot" display.accessPoint, "Server log", display.logStatus, countLabel page,
    page.logText, "Commander"]

/-- The buttons of a page and whether they can be pressed. -/
def buttons (display : Display) (page : Page) : List (String × Bool) :=
  Button.all.map fun button => (button.text, button.isEnabled display page)

/-- The last elements of a list. -/
def newest {α : Type} (count : Nat) (items : List α) : List α :=
  items.drop (items.length - count)

/-- The lines of the log panel of a page. A record of several lines takes as many. -/
def records {ε : Type} (site : Site ε) (page : Page) : List String :=
  let taken := match site.panels.made[page.panel]? with
    | some panel => panel.taken.reverse
    | none => []
  newest panelLines <| taken.flatMap fun line => (Text.splitLines line.toList).map String.ofList

end Warden.Page
