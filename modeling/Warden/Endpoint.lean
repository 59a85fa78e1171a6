import Warden.Failure

/-!
# Endpoints of the web interface

The web interface of the server is reached at up to two addresses: that of the network the host is
connected to, and that of the access point which the host opens itself.

## Main definitions

* `Role`: what an address is for
* `Endpoint`: an address in a role
* `Endpoint.url`: where the web interface is reached
-/

namespace Warden

/-- What the address of an endpoint is for. -/
inductive Role where
  | primary
  | accessPoint
  deriving DecidableEq, Repr

/-- The role as it is written. -/
def Role.text : Role → String
  | .primary => "primary"
  | .accessPoint => "accessPoint"

/-- The role that a value names. -/
def Role.ofValue : Value → Except Failure Role
  | .text "primary" => .ok .primary
  | .text "accessPoint" => .ok .accessPoint
  | value => .error (.unknownRole value)

/-- An address in a role. -/
structure Endpoint where
  address : String
  role : Role
  deriving DecidableEq, Repr

/-- Where the endpoint is reached at a port that is given as text. -/
def Endpoint.urlAt (endpoint : Endpoint) (port : String) : String :=
  s!"http://{endpoint.address}:{port}"

/-- Where the endpoint is reached at a port, which has to be written. -/
def Endpoint.url (endpoint : Endpoint) (port : Int) : Except Failure String :=
  match Numeric.Literal.write port with
  | .ok port => .ok (endpoint.urlAt port)
  | .error fault => .error (.literal fault)

end Warden
