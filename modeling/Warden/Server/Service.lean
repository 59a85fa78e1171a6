import Warden.Act
import Warden.ServerLog.Follower

/-!
# Servers

What the commander asks of a server: to start and stop serving, whether it runs, the lines of its
log and the port of its web interface. Every answer may be a failure, and two questions in a row
may be answered differently.

## Main definitions

* `Service`: the server side of the commander
* `Service.within`: a server that is a part of a larger outside world
-/

namespace Warden.Server

/-- The server side of the commander. -/
structure Service (ε : Type) where
  /-- Starts serving with a configuration directory and a debug level; answers 0, or a code that
  says what went wrong. -/
  start : Option String → Int → Act ε Int
  stop : Act ε Unit
  isRunning : Act ε Bool
  /-- The port of the web interface; it is not available when the port is not positive. -/
  webifPort : Act ε Int
  logLines : ServerLog.Source ε

/-- A server that is a part of a larger outside world. -/
def Service.within {σ ε : Type} (part : σ → ε) (put : σ → ε → σ) (service : Service ε) :
    Service σ where
  start directory level := (service.start directory level).within part put
  stop := service.stop.within part put
  isRunning := service.isRunning.within part put
  webifPort := service.webifPort.within part put
  logLines wanted count := (service.logLines wanted count).within part put

end Warden.Server
