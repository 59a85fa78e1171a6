import Warden.Act
import Warden.Endpoint
import Warden.Network.Interface
import Warden.Text.Case

/-!
# Finding the endpoints

The role of an interface is guessed from its name. Of the interfaces that are up, have an address
and carry a name of the role, the first one wins.

## Main definitions

* `Naming`: the names that stand for a role
* `Source`: what lists the interfaces
* `findPrimary`, `findAccessPoint`: the endpoint of one role
* `findBoth`: the endpoints of both roles, never with one address twice
-/

namespace Warden.Network

/-- The names that stand for a role, in lower case. -/
structure Naming where
  primaryPrefixes : List String := ["wlan", "eth"]
  accessPointPrefixes : List String := ["ap", "swlan", "p2p"]
  accessPointNames : List String := ["wlan1"]

/-- A name in lower case starts with one of some texts. -/
def startsWithAny (name : List Char) (starts : List String) : Bool :=
  starts.any fun start => start.toList.isPrefixOf name

/-- The name of an interface stands for the connected network. -/
def Naming.isPrimary (naming : Naming) (name : String) : Bool :=
  startsWithAny (Text.toLower name.toList) naming.primaryPrefixes

/-- The name of an interface stands for the access point. -/
def Naming.isAccessPoint (naming : Naming) (name : String) : Bool :=
  let lower := Text.toLower name.toList
  startsWithAny lower naming.accessPointPrefixes ||
    naming.accessPointNames.contains (String.ofList lower)

/-- What lists the interfaces. -/
abbrev Source (ε : Type) := Act ε (List Interface)

/-- The interface is up and has an address. -/
def Interface.isActive (interface : Interface) : Bool :=
  interface.isUp && interface.address?.isSome

/-- The endpoint of a role among interfaces: the address of the first active one whose name and
address are fitting. -/
def firstEndpoint? (role : Role) (isNamed : String → Bool) (isFitting : String → Bool)
    (interfaces : List Interface) : Option Endpoint :=
  (interfaces.filter (·.isActive)).findSome? fun interface =>
    if isNamed interface.name then
      (interface.address?.filter isFitting).map fun address => ⟨address, role⟩
    else none

variable {ε : Type}

/-- The interfaces; none when they cannot be listed. -/
def listed (source : Source ε) : Act ε (List Interface) :=
  Act.recover Failure.isUnlisted source fun failure => do
    Act.note .debug s!"NetworkEndpointResolver: interface listing failed: {failure.text}"
    return []

/-- The endpoint on the connected network. -/
def findPrimary (naming : Naming) (source : Source ε) : Act ε (Option Endpoint) := do
  return firstEndpoint? .primary naming.isPrimary (fun _ => true) (← listed source)

/-- The endpoint on the access point, at another address than the excluded one. -/
def findAccessPoint (naming : Naming) (source : Source ε) (excluded : Option String) :
    Act ε (Option Endpoint) := do
  return firstEndpoint? .accessPoint naming.isAccessPoint (fun address => excluded != some address)
    (← listed source)

/-- The endpoints of both roles. -/
def findBoth (naming : Naming) (source : Source ε) : Act ε (List Endpoint) := do
  let primary ← findPrimary naming source
  let accessPoint ← findAccessPoint naming source (primary.map (·.address))
  return primary.toList ++ accessPoint.toList

end Warden.Network
