import Warden.Page.Actions
import Warden.Poller.Tick

/-!
# Coming up and going down

When the host comes up it starts the server if it is set to do so, by the settings or by the
choice of a visitor. When it goes down nothing is observed any more, and the server is stopped.

## Main definitions

* `comeUp`: the host comes up
* `goDown`: the host goes down
* `tick`: the tick of a cadence while the host is up
* `play`: what happens next while the host is up
-/

namespace Warden.Lifecycle

variable {ω ε : Type}

/-- The tick of a cadence. `guest` says what observers do that are not pages. -/
def tick (outer : Surroundings ε) (guest : ω → Notice → Act (Premises ω ε) Unit) (beat : Beat) :
    Act (Premises ω ε) (Option Schedule.Pause) := do
  match beat with
  | .control => Poller.tickStatus (Site.around outer) (Watcher.call guest)
  | .logs => Poller.tickLog (Site.around outer) (Watcher.call guest)
  | .upkeep page => Page.lookAfter page
  return none

/-- What happens next while the host is up. -/
def play (outer : Surroundings ε) (guest : ω → Notice → Act (Premises ω ε) Unit)
    (event : Schedule.Event) : Act (Premises ω ε) Unit :=
  Site.aloud (Schedule.Agenda.play (tick outer guest) event)

/-- The settings ask for the start on boot if they did so before or the stored choice does. -/
def settleStartOnBoot (site : Site ε) : Site ε :=
  let chosen := ((site.stored? Page.startOnBootKey).map Value.isTrue).getD false
  { site with settings := { site.settings with autoStart := site.settings.autoStart || chosen } }

/-- The host comes up. -/
def comeUp (outer : Surroundings ε) : Act (Premises ω ε) Unit := do
  Site.change settleStartOnBoot
  let settings ← Site.look Site.settings
  Site.aloud <| discard <|
    boot Poller.supervise (Site.around outer) settings Poller.showError

/-- The host goes down. -/
def goDown (outer : Surroundings ε) (guest : ω → Notice → Act (Premises ω ε) Unit) :
    Act (Premises ω ε) Unit := do
  Poller.close (play outer guest)
  Site.aloud (Poller.supervise (Supervisor.close (Site.around outer)))

end Warden.Lifecycle
