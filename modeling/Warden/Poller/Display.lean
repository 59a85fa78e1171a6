import Warden.Endpoint
import Warden.Supervisor

/-!
# What the pages show

The display is what the pages show of the server and its network: it is filled in by the poller and
stays as it is between two ticks.

## Main definitions

* `Reach`: where the web interface is reached in one role
* `Role.endpoint?`, `Role.place?`: the endpoint in a role, and the place it comes to with a port
* `Display`: everything the pages show
-/

namespace Warden

/-- Where the web interface is reached in one role: an address, and the full place if the port is
known too. -/
structure Reach where
  address : Option String := none
  url : Option String := none
  deriving DecidableEq, Repr, Inhabited

/-- The endpoint in a role: the last one with this role. -/
def Role.endpoint? (role : Role) (endpoints : List Endpoint) : Option Endpoint :=
  (endpoints.filter (·.role = role)).getLast?

/-- The place in a role, if there is an endpoint in it and the port is known. -/
def Role.place? (role : Role) (endpoints : List Endpoint) (port : Option Int) :
    Except Failure (Option String) :=
  match role.endpoint? endpoints, port with
  | some endpoint, some port => (endpoint.url port).map some
  | _, _ => .ok none

/-- Everything the pages show. -/
structure Display where
  isRunning : Bool := false
  webifPort : Option Int := none
  uptimeText : String := ""
  endpoints : List Endpoint := []
  primary : Reach := {}
  accessPoint : Reach := {}
  /-- The server ran when the log was read last. -/
  isLive : Bool := false
  lineCount : Nat := 0
  lastError : Option String := none
  deriving DecidableEq, Repr, Inhabited

namespace Display

/-- The state of the log as it is shown. -/
def logStatus (display : Display) : String :=
  if display.isLive then "● live" else "○ idle"

/-- Where the web interface is reached in a role. -/
def reach (display : Display) : Role → Reach
  | .primary => display.primary
  | .accessPoint => display.accessPoint

/-- The display with the answers about the server. -/
def withHandle (display : Display) (handle : Handle) : Display :=
  { display with isRunning := handle.running, webifPort := handle.webifPort }

/-- The display with the endpoints and their addresses. The places are still those of before. -/
def withEndpoints (display : Display) (endpoints : List Endpoint) : Display :=
  { display with
    endpoints
    primary.address := (Role.primary.endpoint? endpoints).map Endpoint.address
    accessPoint.address := (Role.accessPoint.endpoint? endpoints).map Endpoint.address }

/-- The display with the place in a role. -/
def withPlace (display : Display) (role : Role) (url : Option String) : Display :=
  match role with
  | .primary => { display with primary.url := url }
  | .accessPoint => { display with accessPoint.url := url }

end Display

end Warden
