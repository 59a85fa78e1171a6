import Warden.Failure
import Warden.Network.Ipv4

/-!
# Network interfaces

The interfaces of the host with their addresses, as the platform lists them: the addresses of every
interface in one table, and whether it is up in another.

## Main definitions

* `Interface`: an interface with its IPv4 addresses
* `Interface.address?`: the address that an interface is reached at
* `Platform`: the two tables of the platform
* `Platform.interfaces`: the interfaces that the tables describe
-/

namespace Warden.Network

/-- An interface with its IPv4 addresses in the order of the platform. -/
structure Interface where
  name : String
  isUp : Bool
  addresses : List String
  deriving DecidableEq, Repr

/-- The first valid address that is not one of the host itself. -/
def firstAddress? (addresses : List String) : Option String :=
  addresses.findSome? fun text =>
    (Ipv4.ofText? text).bind fun ip => if ip.isLoopback then none else some ip.text

/-- The address that an interface is reached at. -/
def Interface.address? (interface : Interface) : Option String :=
  firstAddress? interface.addresses

/-- The families of addresses. -/
inductive Family where
  | inet
  | other
  deriving DecidableEq, Repr

/-- The tables of the platform, or why they cannot be had. -/
structure Platform where
  addresses : Except Failure (List (String × List (Family × String)))
  states : Except Failure (List (String × Bool))

/-- A table with one more entry; a key that is there keeps its place and takes the new value. -/
def enter {α : Type} (entries : List (String × α)) (entry : String × α) : List (String × α) :=
  if entries.any (·.1 == entry.1) then
    entries.map fun old => if old.1 == entry.1 then entry else old
  else entries ++ [entry]

/-- A list of entries as a table. -/
def tabled {α : Type} (entries : List (String × α)) : List (String × α) :=
  entries.foldl enter []

/-- A failure of the platform as one of listing interfaces. Failures of another sort stay. -/
def listingFailure (failure : Failure) : Failure :=
  match failure.kind with
  | .system _ | .processQuery _ => .interfacesUnlisted failure.text
  | _ => failure

/-- The interfaces that the tables describe, in the order of the addresses. An interface without a
state is not up. -/
def Platform.interfaces (platform : Platform) : Except Failure (List Interface) :=
  let listed : Except Failure (List Interface) := do
    let addresses ← platform.addresses
    let states ← platform.states
    return (tabled addresses).map fun (name, entries) =>
      { name
        isUp := ((tabled states).find? (·.1 == name)).any (·.2)
        addresses := (entries.filter (·.1 == .inet)).map (·.2) }
  listed.mapError listingFailure

end Warden.Network
