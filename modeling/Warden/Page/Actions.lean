import Warden.Command
import Warden.Page.Site

/-!
# What visitors do

A visit opens a page, which then observes the network and the log until the visitor goes away. On
the page the visitor starts and stops the server, opens its web interface, and chooses whether the
server is started on boot.

## Main definitions

* `Page.build`, `Page.leave`: a visit begins and ends
* `Watcher.call`: what an observer does when it is told something
* `Button`: the buttons, with `Button.isEnabled` and `Button.press`
* `Page.click`, `Page.switch`: what a visitor does
-/

namespace Warden

variable {ω ε : Type}

/-! ## What pages observe -/

/-- The buttons that lead to the web interface follow the display. -/
def Page.showReach (number : Nat) : Act (Premises ω ε) Unit := do
  let display ← Poller.look Poller.display
  Site.changePage number fun page =>
    { page with
      primaryEnabled := display.primary.url.isSome
      accessPointEnabled := display.accessPoint.url.isSome }

/-- The server log on a page follows its follower, as long as it has one. -/
def Page.render (number : Nat) : Act (Premises ω ε) Unit := do
  match (← Site.look (·.pages[number]?)).bind (·.follower) with
  | none => pure ()
  | some follower =>
    let buffer ← Poller.look fun poller => (poller.followers[follower]?.getD default).buffer
    Site.changePage number fun page =>
      { page with logText := buffer.text, lineCount := buffer.lineCount }

/-- What an observer does when it is told something. `guest` says what guests do. -/
def Watcher.call (guest : ω → Notice → Act (Premises ω ε) Unit) (watcher : Watcher ω)
    (notice : Notice) : Act (Premises ω ε) Unit :=
  match watcher with
  | .network page => Page.showReach page
  | .log page => Page.render page
  | .guest observer => guest observer notice

/-! ## Visits -/

namespace Page

/-- The key under which the choice about the start on boot is stored. -/
def startOnBootKey : String := "autostart_enabled"

/-- The choice about the start on boot: the stored one, or else what the settings say. -/
def startsOnBootAt (site : Site ε) : Bool :=
  ((site.stored? startOnBootKey).map Value.isTrue).getD site.settings.autoStart

/-- The interval at which a page is kept up. -/
def upkeepInterval : Numeric.Reading :=
  .ofSeconds (Numeric.Seconds.round (Numeric.unitsPerOne / 10))

/-- A page is kept up from now on: ten times a second somebody looks whether its browser is there.
-/
def keepUp (number : Nat) : Act (Premises ω ε) Unit := do
  let beat := Beat.upkeep number
  Schedule.Agenda.put beat
    (← Act.ofExcept (Schedule.Cadence.ofInterval (Poller.beatName beat) upkeepInterval))
  Schedule.Agenda.start beat

/-- Somebody looks whether the browser of a page is there; the last look is when it has gone. -/
def lookAfter (number : Nat) : Act (Premises ω ε) Unit := do
  let isOpen ← Site.look fun site => site.pages[number]?.any (·.isOpen)
  unless isOpen do Schedule.Agenda.cancel (.upkeep number)

/-- A visit begins; answers the number of its page. -/
def build : Act (Premises ω ε) Nat := do
  let startsOnBoot ← Site.look startsOnBootAt
  let panel ← Site.addPanel
  let number ← Site.addPage
    { startsOnBoot, panel, primaryEnabled := false, accessPointEnabled := false }
  keepUp number
  showReach number
  Poller.attachNetwork (.network number)
  Act.enter (.opened panel)
  let follower ← Poller.attachLog (.log number) ServerLog.defaultLines
  Site.changePage number fun page => { page with follower := some follower }
  return number

/-- The network is not observed by a page any more. -/
def detachNetwork [DecidableEq ω] (number : Nat) : Act (Premises ω ε) Unit :=
  Poller.detachNetwork (.network number)

/-- The logs are not shown on a page any more; what it shows of them stays. -/
def detachLog (number : Nat) : Act (Premises ω ε) Unit := do
  match ← Site.look (·.pages[number]?) with
  | none => pure ()
  | some page =>
    match page.follower with
    | some follower =>
      Poller.detachLog follower
      Site.changePage number fun page => { page with follower := none }
    | none => pure ()
    Act.enter (.closed page.panel)

/-- A visit ends. -/
def leave [DecidableEq ω] (number : Nat) : Act (Premises ω ε) Unit := do
  detachNetwork number
  detachLog number
  Site.changePage number fun page => { page with isOpen := false }

end Page

/-! ## Buttons and the switch -/

/-- The buttons of a page. -/
inductive Button where
  | start
  | stop
  | webif (role : Role)
  deriving DecidableEq, Repr

namespace Button

/-- The buttons in the order of the page. -/
def all : List Button :=
  [.start, .stop, .webif .primary, .webif .accessPoint]

/-- What is written on a button. -/
def text : Button → String
  | start => "Start"
  | stop => "Stop"
  | webif .primary => "WebIF (Wi-Fi)"
  | webif .accessPoint => "WebIF (Hotspot)"

/-- The first button on which a text is written. -/
def ofText? (text : String) : Option Button :=
  all.find? (·.text == text)

/-- A button can be pressed. -/
def isEnabled (display : Display) (page : Page) : Button → Bool
  | start => !display.isRunning
  | stop => display.isRunning
  | webif .primary => page.primaryEnabled
  | webif .accessPoint => page.accessPointEnabled

/-- The outcome of a start is shown, with an alert when it failed. -/
def reportStart (message : Option String) : Act (Premises ω ε) Unit := do
  Poller.showError message
  match message.bind Text.nonEmpty? with
  | some words => Site.alert words .negative
  | none => pure ()

/-- Opens the web interface in the browser. -/
def visitWebif (url : Option String) : Act (Premises ω ε) Unit :=
  match url.bind Text.nonEmpty? with
  | some place => Site.runScript s!"window.open('{place}', '_blank')"
  | none => Site.alert "WebIF not available" .warning

/-- A command that is given on a page. -/
def command (outer : Surroundings ε) (command : Command) : Act (Premises ω ε) Unit := do
  let settings ← Site.look Site.settings
  discard <| command.handle Poller.supervise (Site.around outer) settings.configDirectory
    settings.debugLevel reportStart

/-- A button is pressed. -/
def press (outer : Surroundings ε) : Button → Act (Premises ω ε) Unit
  | start => command outer .start
  | stop => command outer .stop
  | webif role => do visitWebif (← Poller.look fun poller => (poller.display.reach role).url)

end Button

namespace Page

/-- A visitor tries to press a button; answers whether it can be pressed. -/
def click (outer : Surroundings ε) (number : Nat) (button : Button) :
    Act (Premises ω ε) Bool := do
  let display ← Poller.look Poller.display
  match ← Site.look (·.pages[number]?) with
  | none => return false
  | some page =>
    if button.isEnabled display page then
      button.press outer
      return true
    else return false

/-- The choice about the start on boot is stored. -/
def chooseStartOnBoot (chosen : Bool) : Act (Premises ω ε) Unit := do
  Site.store startOnBootKey (.truth chosen)
  let word := if chosen then "enabled" else "disabled"
  Act.note .info s!"Auto-start {word}"

/-- The switch is turned. Nothing happens when it stands there already. -/
def switch (number : Nat) (chosen : Bool) : Act (Premises ω ε) Unit := do
  match ← Site.look (·.pages[number]?) with
  | none => pure ()
  | some page =>
    if page.startsOnBoot != chosen then
      Site.changePage number fun page => { page with startsOnBoot := chosen }
      chooseStartOnBoot chosen

end Page

end Warden
