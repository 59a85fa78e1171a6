import Warden.Proofs.Network.Endpoints

/-!
# The endpoints are exclusive

The interfaces are listed once for each role, and the second listing may differ from the first. For
every source the endpoints that are found have one role each, the primary one first, and different
addresses; and each address stands, as it is written, in the listing for its role.

## Main definitions

* `Lists`: a source lists interfaces, or fails in a way that counts as listing none
* `listing`: the interfaces that are listed for a role

## Main results

* `run_listed`: interfaces that cannot be listed count as none
* `run_findBoth`: the endpoints are the first ones of the two listings
* `endpoints_exclusive`: they are exclusive, and stand in the listings
-/

namespace Warden.Network

variable {ε : Type}

/-- A source lists interfaces in a world, or fails in a way that counts as listing none: a failed
system call, a failed process query, or a listing that failed. -/
def Lists (source : Source ε) (world : ε) : Prop :=
  ∀ failure, (source world).outcome = .error failure → failure.isUnlisted = true

/-- The interfaces that a source lists in a world. -/
def interfacesOf (source : Source ε) (world : ε) : List Interface :=
  match (source world).outcome with
  | .ok interfaces => interfaces
  | .error _ => []

/-- The interfaces that are listed for a role: the primary endpoint is looked for first. -/
def listing (source : Source ε) (world : ε) : Role → List Interface
  | .primary => interfacesOf source world
  | .accessPoint => interfacesOf source (source world).state

/-- The name of an interface stands for a role. -/
def Naming.isNamed (naming : Naming) : Role → String → Bool
  | .primary => naming.isPrimary
  | .accessPoint => naming.isAccessPoint

variable {source : Source ε} {world : ε}

/-- **Interfaces that cannot be listed** count as none. -/
theorem run_listed (hlists : Lists source world) :
    (listed source world).outcome = .ok (interfacesOf source world) ∧
      (listed source world).state = (source world).state := by
  rw [listed, Act.outcome_recover, Act.state_recover, interfacesOf]
  cases hsource : (source world).outcome with
  | ok interfaces => exact ⟨rfl, rfl⟩
  | error failure =>
    have hmild : failure.isUnlisted = true := hlists failure hsource
    simp [hmild]

/-- **The endpoints that are found** are the first ones of the two listings. -/
theorem run_findBoth (naming : Naming) (hfirst : Lists source world)
    (hsecond : Lists source (source world).state) :
    ∃ primary accessPoint,
      (findBoth naming source world).outcome = .ok (primary.toList ++ accessPoint.toList) ∧
      primary = firstEndpoint? .primary (naming.isNamed .primary) (fun _ => true)
        (listing source world .primary) ∧
      accessPoint = firstEndpoint? .accessPoint (naming.isNamed .accessPoint)
        (fun address => primary.map (·.address) != some address)
        (listing source world .accessPoint) := by
  obtain ⟨hlisted, hafter⟩ := run_listed hfirst
  obtain ⟨hagain, -⟩ := run_listed hsecond
  refine ⟨_, _, ?_, rfl, rfl⟩
  rw [findBoth, findPrimary, Act.bind_assoc, Act.outcome_bind_ok hlisted, hafter]
  simp [findAccessPoint, hagain, listing, Naming.isNamed]

/-- The address of an endpoint leads out of the host, and stands at an interface that is up and
carries a name of the role. -/
def Stands (naming : Naming) (endpoint : Endpoint) (interfaces : List Interface) : Prop :=
  IsOutward endpoint.address ∧
    ∃ interface ∈ interfaces, interface.isUp = true ∧
      naming.isNamed endpoint.role interface.name = true ∧
      endpoint.address ∈ interface.addresses

theorem stands_of_firstEndpoint? {naming : Naming} {role : Role} {isFitting : String → Bool}
    {interfaces : List Interface} {endpoint : Endpoint}
    (h : firstEndpoint? role (naming.isNamed role) isFitting interfaces = some endpoint) :
    endpoint.role = role ∧ isFitting endpoint.address = true ∧ Stands naming endpoint interfaces := by
  obtain ⟨rfl, hfitting, interface, hmem, hup, hnamed, haddress⟩ := of_firstEndpoint? h
  obtain ⟨hstands, houtward⟩ := isOutward_of_firstAddress? haddress
  exact ⟨rfl, hfitting, houtward, interface, hmem, hup, hnamed, hstands⟩

/-- **The endpoints are exclusive**, whatever is listed each time, and even if nothing can be listed:
there are at most two, the primary one before that of the access point, at different addresses. The
address of each stands, as it is written, in the listing for its role, at an interface that is up
and carries a name of the role, and it leads out of the host. -/
theorem endpoints_exclusive (naming : Naming) (source : Source ε) (world : ε)
    (hfirst : Lists source world) (hsecond : Lists source (source world).state) :
    ∃ endpoints, (findBoth naming source world).outcome = .ok endpoints ∧
      endpoints.length ≤ 2 ∧
      endpoints.Pairwise (fun one other => one.role = .primary ∧ other.role = .accessPoint ∧
        one.address ≠ other.address) ∧
      ∀ endpoint ∈ endpoints, Stands naming endpoint (listing source world endpoint.role) := by
  obtain ⟨primary, accessPoint, houtcome, hprimary, haccess⟩ := run_findBoth naming hfirst hsecond
  refine ⟨_, houtcome, ?_, pairwise_found (fun endpoint h => ?_) fun endpoint h => ?_,
    fun endpoint hmem => ?_⟩
  · have hlength (found : Option Endpoint) : found.toList.length ≤ 1 := by cases found <;> simp
    have hone := hlength primary
    have hother := hlength accessPoint
    simp only [List.length_append]
    omega
  · exact (stands_of_firstEndpoint? (hprimary.symm.trans h)).1
  · obtain ⟨hrole, hfitting, -⟩ := stands_of_firstEndpoint? (haccess.symm.trans h)
    exact ⟨hrole, by simpa using hfitting⟩
  · rcases mem_found.mp hmem with h | h
    · obtain ⟨hrole, -, hstands⟩ := stands_of_firstEndpoint? (hprimary.symm.trans h)
      rwa [hrole]
    · obtain ⟨hrole, -, hstands⟩ := stands_of_firstEndpoint? (haccess.symm.trans h)
      rwa [hrole]

/-- A source that gives its answers one after the other. -/
def answering : Source (List (Except Failure (List Interface)))
  | [] => ⟨.ok [], [], []⟩
  | answer :: rest => ⟨answer, rest, []⟩

/-- The first listing is refused, and the second has an interface whose name stands for both roles. -/
def refusedOnce : List (Except Failure (List Interface)) :=
  [.error (.reported (.processQuery true) "denied"), .ok [⟨"wlan1", true, ["127.0.0.1", "10.0.0.7"]⟩]]

/-- After a refused listing the interface is found as the access point alone. -/
theorem endpoints_exclusive_refused :
    Lists answering refusedOnce ∧ Lists answering (answering refusedOnce).state ∧
      ∃ endpoints, (findBoth {} answering refusedOnce).outcome = .ok endpoints ∧
        endpoints = [⟨"10.0.0.7", .accessPoint⟩] ∧
        ∀ endpoint ∈ endpoints,
          Stands {} endpoint (listing answering refusedOnce endpoint.role) := by
  have hfirst : Lists answering refusedOnce := fun failure h => by
    obtain rfl := Except.error.inj h
    rfl
  have hsecond : Lists answering (answering refusedOnce).state := fun failure h => by cases h
  have hfound : (findBoth {} answering refusedOnce).outcome.toOption =
      some [⟨"10.0.0.7", .accessPoint⟩] := by decide +kernel
  obtain ⟨endpoints, houtcome, -, -, hstands⟩ :=
    endpoints_exclusive {} answering refusedOnce hfirst hsecond
  rw [houtcome] at hfound
  exact ⟨hfirst, hsecond, endpoints, houtcome, Option.some.inj hfound, hstands⟩

end Warden.Network
