import Warden.Lifecycle
import Warden.Page.Shown
import Warden.Position
import Warden.Rehearsal.Scenery

/-!
# Rehearsed sessions

A session rehearses the whole commander: supervisors that share one token, a poller on the first of
them, and the site, over rehearsed servers. It is played step by step.

## Main definitions

* `Plan`: how a session begins
* `Session`: the commander over the scenery
* `Session.perform`: one step of a session
* `Session.standings`: the supervisors and their servers
-/

namespace Warden.Rehearsal

open Warden.KeepAwake (Token)
open Warden.Numeric (Reading)

/-- How a session begins. -/
structure Plan where
  tokenName : String := "tcmg:test"
  /-- The number of supervisors, each with a server of its own. -/
  supervisors : Nat := 1
  server : RehearsedServer := {}
  inhibitor : RehearsedInhibitor := default
  clock : Reading := 0
  interfaces : List Network.Interface := []
  controlInterval : Reading := Poller.controlInterval
  logInterval : Reading := Poller.logInterval
  settings : Settings
  storage : List (String × Value) := []
  relay : Option Log.Level := none

/-- The commander over the scenery. -/
abbrev Session := Premises String Scenery

namespace Session

/-- A session at its beginning. -/
def ofPlan (plan : Plan) : Except Failure Session := do
  let scenery : Scenery :=
    { servers := (List.replicate plan.supervisors plan.server).toArray
      inhibitor := plan.inhibitor
      clock := plan.clock
      interfaces := .ok plan.interfaces
      others := (List.replicate (plan.supervisors - 1) default).toArray }
  let site : Site Scenery :=
    { outside := scenery, settings := plan.settings, storage := plan.storage, relay := plan.relay }
  let token : Token := { name := plan.tokenName }
  Poller.atIntervals { awake := { token, outside := site } } plan.controlInterval plan.logInterval

/-- The site of a session. -/
def site (session : Session) : Site Scenery :=
  session.world.supervised.awake.outside

/-- The scenery of a session. -/
def scenery (session : Session) : Scenery :=
  session.site.outside

/-- An act on the scenery. -/
def onScenery {α : Type} (act : Act Scenery α) : Act Session α :=
  Site.beyond act

/-- A supervisor after the first one, as it is now. -/
def other (session : Session) (place : Nat) : Supervised (Site Scenery) :=
  let record := session.scenery.others[place]?.getD default
  { awake := session.world.supervised.awake, startedAt := record.startedAt, holds := record.holds }

/-- The session after a supervisor after the first one changed. -/
def withOther (place : Nat) (session : Session) (after : Supervised (Site Scenery)) : Session :=
  let record : Record := { startedAt := after.startedAt, holds := after.holds }
  let site := after.awake.outside
  let others := site.outside.others.setIfInBounds place record
  let awake := { after.awake with outside := { site with outside := { site.outside with others } } }
  let supervised := { session.world.supervised with awake }
  { session with world := { session.world with supervised } }

/-- An act of the supervisor of a number. All supervisors share one token. -/
def supervise {α : Type} (number : Nat) (act : Act (Supervised (Site Scenery)) α) :
    Act Session α :=
  match number with
  | 0 => Poller.supervise act
  | place + 1 => act.within (other · place) (withOther place)

/-- The outside world as the supervisor of a number has it. -/
def surroundings (number : Nat) : Surroundings (Site Scenery) :=
  Site.around (Scenery.surroundings number)

/-- The outcome of a start is reported, if somebody observes it. -/
def reporter (observed : Bool) : Reporter Session := fun message => do
  if observed then onScenery (Scenery.report message)

/-- What a supervisor answers to a task. -/
def fulfil (number : Nat) (task : Task) : Act Session Answer := do
  let around := surroundings number
  match task with
  | .start directory debugLevel =>
    supervise number (Supervisor.start around directory debugLevel)
    return .nothing
  | .stop =>
    supervise number (Supervisor.stop around)
    return .nothing
  | .close =>
    supervise number (Supervisor.close around)
    return .nothing
  | .isRunning => return .truth (← supervise number (Supervisor.isRunning around))
  | .state => return .word (← supervise number (Supervisor.state around))
  | .webifPort => return .port (← supervise number (Supervisor.webifPort around))
  | .uptime => return .duration (← supervise number (Supervisor.uptime around))
  | .snapshot => return .handle (← supervise number (Supervisor.snapshot around))
  | .supervised directory debugLevel failure =>
    supervise number <| Supervisor.supervise around do
      Supervisor.start around directory debugLevel
      Act.raise? failure
    return .nothing
  | .command command directory debugLevel observed =>
    let command ← Act.ofExcept command
    return .truth (← command.handle (supervise number) around directory debugLevel
      (reporter observed))
  | .boot settings observed =>
    return .truth (← boot (supervise number) around settings (reporter observed))

/-- The outside world of the poller and the pages. -/
def outer : Surroundings Scenery :=
  Scenery.surroundings 0

/-- The page of the last visit. -/
def page (session : Session) : Nat :=
  session.site.pages.size - 1

/-- The token itself is taken or given back. -/
def onToken (act : Act (KeepAwake.Awake (Site Scenery)) Unit) : Act Session Unit :=
  supervise 0 (Supervisor.onToken act)

/-- The number of the supervisor, and of its server, at a position. -/
def number (session : Session) (position : Int) : Act Session Nat :=
  Act.ofExcept (numberAt position session.scenery.servers.size)

/-- A step that answers nothing. -/
def quietly (act : Act Session Unit) : Act Session Answer := do
  act
  return .nothing

/-- What a step does. `guest` says what observers of the session do. -/
def enact (guest : String → Notice → Act Session Unit) (step : Step) : Act Session Answer := do
  let session ← Act.get
  match step with
  | .nothing => return .nothing
  | .raise failure => Act.fail failure
  | .ask supervisor task => fulfil (← session.number supervisor) task
  | .changeServer server f =>
    quietly (onScenery (Scenery.changeServer (← session.number server) f))
  | .log server lines =>
    let server ← session.number server
    onScenery <| Scenery.changeServer server fun old => { old with log := old.log.append lines }
    return .count (← Act.view fun session => (session.scenery.server server).log.ring.total)
  | .changeInhibitor f =>
    quietly <| onScenery <| Act.modify fun scenery =>
      { scenery with inhibitor := f scenery.inhibitor }
  | .acquire => quietly (onToken (KeepAwake.acquire (surroundings 0).inhibitor))
  | .release => quietly (onToken (KeepAwake.release (surroundings 0).inhibitor))
  | .setClock moment =>
    quietly <| onScenery <| Act.modify fun scenery => { scenery with clock := moment }
  | .setInterfaces interfaces =>
    quietly <| onScenery <| Act.modify fun scenery => { scenery with interfaces }
  | .attachStatus observer script =>
    onScenery (Scenery.engage observer script)
    quietly (Poller.attachStatus (.guest observer))
  | .detachStatus observer script =>
    onScenery (Scenery.engage observer script)
    quietly (Poller.detachStatus (.guest observer))
  | .attachNetwork observer script =>
    onScenery (Scenery.engage observer script)
    quietly (Poller.attachNetwork (.guest observer))
  | .detachNetwork observer script =>
    onScenery (Scenery.engage observer script)
    quietly (Poller.detachNetwork (.guest observer))
  | .attachLog observer follower maxLines script =>
    onScenery (Scenery.engage observer script)
    let number ← Poller.attachLog (.guest observer) maxLines
    quietly (onScenery (Scenery.nameFollower follower number))
  | .detachLog follower =>
    let number ← onScenery (Scenery.follower follower)
    quietly (Poller.detachLog number)
  | .tickStatus => quietly (Poller.tickStatus (surroundings 0) (Watcher.call guest))
  | .tickLog => quietly (Poller.tickLog (surroundings 0) (Watcher.call guest))
  | .stopPolling => quietly Poller.stop
  | .closePolling => quietly (Poller.close (Lifecycle.play outer guest))
  | .showError message => quietly (Poller.showError message)
  | .advance duration => quietly (Schedule.Agenda.advance (Lifecycle.play outer guest) duration)
  | .build => quietly (discard Page.build)
  | .click text =>
    match Button.ofText? text with
    | some button =>
      let enabled ← Page.click outer session.page button
      return .word (if enabled then "clicked" else "disabled")
    | none => return .nothing
  | .switch chosen => quietly (Page.switch session.page chosen)
  | .render => quietly (Page.render session.page)
  | .detachPageLog => quietly (Page.detachLog session.page)
  | .leave => quietly (Page.leave session.page)
  | .comeUp => quietly (Lifecycle.comeUp outer)
  | .goDown => quietly (Lifecycle.goDown outer guest)

/-- An observer is told something and follows its script, as long as the fuel lasts. -/
def follow : Nat → String → Notice → Act Session Unit
  | 0, observer, notice => discard (onScenery (Scenery.cue observer notice))
  | fuel + 1, observer, notice => do
    let step ← onScenery (Scenery.cue observer notice)
    discard (enact (follow fuel) step)

/-- The relay already takes the records of a step to the panels while it goes on. -/
def isAloud : Step → Bool
  | .closePolling | .advance _ | .comeUp | .goDown => true
  | _ => false

/-- One step of a session. -/
def perform (step : Step) : Act Session Answer :=
  let act := enact (follow Schedule.Agenda.patience) step
  if isAloud step then act else Site.aloud act

/-! ## What a session shows -/

/-- The token is held. -/
def isHeld (session : Session) : Bool :=
  session.world.supervised.awake.token.held

/-- A supervisor and its server. -/
structure Standing where
  running : Bool
  port : Option Int
  uptime : Option Reading
  startedAt : Option Reading
  /-- The starts of the server, the last first. -/
  starts : List (Option String × Int)
  stops : Nat

/-- The answer of a supervisor, if there is one. -/
def answered? {α : Type} (session : Session) (number : Nat)
    (act : Surroundings (Site Scenery) → Act (Supervised (Site Scenery)) α) : Option α :=
  (supervise number (act (surroundings number)) session).outcome.toOption

/-- The supervisor of a number and its server. -/
def standing (session : Session) (number : Nat) : Standing :=
  let server := session.scenery.server number
  { running := (session.answered? number Supervisor.isRunning).getD false
    port := (session.answered? number Supervisor.webifPort).join
    uptime := (session.answered? number Supervisor.uptime).join
    startedAt := (session.answered? number fun _ => Act.view Supervised.startedAt).join
    starts := server.starts
    stops := server.stops }

/-- The supervisors and their servers. -/
def standings (session : Session) : List Standing :=
  (List.range session.scenery.servers.size).map session.standing

end Session

end Warden.Rehearsal
