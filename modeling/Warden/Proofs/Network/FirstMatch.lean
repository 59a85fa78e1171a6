import Warden.Proofs.Network.Exclusive

/-!
# The first interface that qualifies wins

Of the interfaces that are listed, the first one that qualifies for a role is the endpoint of the
role. It has to be up, to carry a name of the role, and to have an address that leads out of the
host. The first such address is the one that counts, and for the access point it must not be the
excluded one. What does not qualify is passed over, so that it never hides what comes after it.

## Main definitions

* `Naming.Names`: the name of an interface stands for a role
* `Qualifies`: an interface qualifies for a role with an address
* `FirstMatch`: the first interface that qualifies, or none

## Main results

* `isNamed_iff`: what the names of the roles are
* `candidate?_iff_qualifies`: an interface gives the endpoint when it qualifies
* `firstMatch_firstEndpoint?`: the endpoint among interfaces is that of the first match
* `first_match_wins`: the endpoints of both roles
-/

namespace Warden.Network

/-! ## Interfaces that qualify -/

/-- The name of an interface stands for a role: in lower case it starts with a prefix of the role,
or it is a name of the access point. -/
def Naming.Names (naming : Naming) (name : String) : Role → Prop
  | .primary => ∃ start ∈ naming.primaryPrefixes, start.toList <+: Text.toLower name.toList
  | .accessPoint =>
    (∃ start ∈ naming.accessPointPrefixes, start.toList <+: Text.toLower name.toList) ∨
      String.ofList (Text.toLower name.toList) ∈ naming.accessPointNames

/-- An interface qualifies for a role with an address, which is its first one that leads out of the
host. The access point has another address than the excluded one. -/
structure Qualifies (naming : Naming) (excluded : Option String) (role : Role)
    (interface : Interface) (address : String) : Prop where
  isUp : interface.isUp = true
  isNamed : naming.Names interface.name role
  isFirst : IsFirstOutward interface.addresses address
  isOther : role = .accessPoint → excluded ≠ some address

/-- What is found among interfaces is the endpoint of the first one that qualifies, and nothing is
found exactly when none qualifies. -/
structure FirstMatch (naming : Naming) (excluded : Option String) (role : Role)
    (interfaces : List Interface) (found : Option Endpoint) : Prop where
  some_iff : ∀ endpoint, found = some endpoint ↔ endpoint.role = role ∧
    ∃ before interface after, interfaces = before ++ interface :: after ∧
      Qualifies naming excluded role interface endpoint.address ∧
      ∀ other ∈ before, ∀ address, ¬ Qualifies naming excluded role other address
  none_iff : found = none ↔
    ∀ interface ∈ interfaces, ∀ address, ¬ Qualifies naming excluded role interface address

theorem startsWithAny_iff {name : List Char} {starts : List String} :
    startsWithAny name starts = true ↔ ∃ start ∈ starts, start.toList <+: name := by
  rw [startsWithAny, List.any_eq_true]
  simp only [List.isPrefixOf_iff_prefix]

/-- **The names of a role** are those that are asked for. -/
theorem isNamed_iff {naming : Naming} {role : Role} {name : String} :
    naming.isNamed role name = true ↔ naming.Names name role := by
  cases role with
  | primary => exact startsWithAny_iff
  | accessPoint =>
    show naming.isAccessPoint name = true ↔ _
    rw [Naming.isAccessPoint, Bool.or_eq_true, startsWithAny_iff, List.contains_iff_mem]
    rfl

/-! ## The endpoint of one interface -/

/-- The address of an endpoint may be used in a role. -/
def fitting (excluded : Option String) : Role → String → Bool
  | .primary, _ => true
  | .accessPoint, address => excluded != some address

theorem fitting_iff {excluded : Option String} {role : Role} {address : String} :
    fitting excluded role address = true ↔ (role = .accessPoint → excluded ≠ some address) := by
  cases role with
  | primary => simp [fitting]
  | accessPoint => simp [fitting]

variable {naming : Naming} {excluded : Option String} {role : Role}

/-- **The endpoint of one interface** is there when the interface qualifies. -/
theorem candidate?_iff_qualifies {interface : Interface} {endpoint : Endpoint} :
    candidate? role (naming.isNamed role) (fitting excluded role) interface = some endpoint ↔
      endpoint.role = role ∧ Qualifies naming excluded role interface endpoint.address := by
  rw [candidate?_eq_some_iff, Interface.address?, isNamed_iff, fitting_iff,
    firstAddress?_eq_some_iff]
  constructor
  · rintro ⟨hrole, hother, hup, hnamed, hfirst⟩
    exact ⟨hrole, hup, hnamed, hfirst, hother⟩
  · rintro ⟨hrole, hup, hnamed, hfirst, hother⟩
    exact ⟨hrole, hother, hup, hnamed, hfirst⟩

theorem candidate?_eq_none_iff {interface : Interface} :
    candidate? role (naming.isNamed role) (fitting excluded role) interface = none ↔
      ∀ address, ¬ Qualifies naming excluded role interface address := by
  constructor
  · intro hnone address hqualifies
    have hsome : candidate? role (naming.isNamed role) (fitting excluded role) interface =
        some ⟨address, role⟩ := candidate?_iff_qualifies.mpr ⟨rfl, hqualifies⟩
    cases hnone.symm.trans hsome
  · intro hnone
    rw [Option.eq_none_iff_forall_not_mem]
    intro endpoint hmem
    exact hnone endpoint.address (candidate?_iff_qualifies.mp hmem).2

/-! ## The endpoint among interfaces -/

/-- **The endpoint among interfaces** is that of the first match. -/
theorem firstMatch_firstEndpoint? (interfaces : List Interface) :
    FirstMatch naming excluded role interfaces
      (firstEndpoint? role (naming.isNamed role) (fitting excluded role) interfaces) where
  some_iff endpoint := by
    rw [firstEndpoint?_eq_findSome?, List.findSome?_eq_some_iff]
    constructor
    · rintro ⟨before, interface, after, hsplit, hfound, hbefore⟩
      obtain ⟨hrole, hqualifies⟩ := candidate?_iff_qualifies.mp hfound
      exact ⟨hrole, before, interface, after, hsplit, hqualifies,
        fun other hother => candidate?_eq_none_iff.mp (hbefore other hother)⟩
    · rintro ⟨hrole, before, interface, after, hsplit, hqualifies, hbefore⟩
      exact ⟨before, interface, after, hsplit, candidate?_iff_qualifies.mpr ⟨hrole, hqualifies⟩,
        fun other hother => candidate?_eq_none_iff.mpr (hbefore other hother)⟩
  none_iff := by
    rw [firstEndpoint?_eq_findSome?, List.findSome?_eq_none_iff]
    exact forall₂_congr fun interface _ => candidate?_eq_none_iff

/-! ## The endpoints of both roles -/

/-- **The first interface that qualifies wins**, for every list of interfaces, all names that stand
for a role, and every excluded address: the endpoint has the role, and the first address of that
interface that leads out of the host. Nothing is found exactly when no interface qualifies. -/
theorem first_match_wins {ε : Type} (naming : Naming) (source : Source ε) (world : ε)
    (interfaces : List Interface) (hlisted : (source world).outcome = .ok interfaces)
    (excluded : Option String) :
    (∃ found, (findPrimary naming source world).outcome = .ok found ∧
      FirstMatch naming excluded .primary interfaces found) ∧
    ∃ found, (findAccessPoint naming source excluded world).outcome = .ok found ∧
      FirstMatch naming excluded .accessPoint interfaces found := by
  have hrun : (listed source world).outcome = .ok interfaces := by
    rw [listed, Act.outcome_recover, hlisted]
  refine ⟨⟨_, ?_, firstMatch_firstEndpoint? interfaces⟩,
    ⟨_, ?_, firstMatch_firstEndpoint? interfaces⟩⟩
  · rw [findPrimary, Act.outcome_bind_ok hrun]
    rfl
  · rw [findAccessPoint, Act.outcome_bind_ok hrun]
    rfl

/-- Interfaces of which some are down, have no address that counts, or have the excluded one. -/
def motley : List Interface :=
  [⟨"eth0", false, ["10.0.0.2"]⟩, ⟨"eth1", true, ["127.0.0.1"]⟩, ⟨"lo", true, ["10.0.0.3"]⟩,
    ⟨"ETH2", true, ["10.0.0.256", "127.0.0.1", "10.0.0.5", "10.0.0.6"]⟩,
    ⟨"ap0", true, ["10.0.0.5"]⟩, ⟨"WLAN1", true, ["10.0.0.9"]⟩]

/-- What does not qualify is passed over, up to the fourth interface for the connected network, and
up to the last one for the access point. -/
theorem first_match_wins_motley :
    let source : Source Unit := (pure motley : Act Unit (List Interface))
    (findPrimary {} source ()).outcome = .ok (some ⟨"10.0.0.5", .primary⟩) ∧
      FirstMatch {} (some "10.0.0.5") .primary motley (some ⟨"10.0.0.5", .primary⟩) ∧
      (findAccessPoint {} source (some "10.0.0.5") ()).outcome =
        .ok (some ⟨"10.0.0.9", .accessPoint⟩) ∧
      FirstMatch {} (some "10.0.0.5") .accessPoint motley (some ⟨"10.0.0.9", .accessPoint⟩) := by
  intro source
  have hprimary : (findPrimary {} source ()).outcome.toOption =
      some (some ⟨"10.0.0.5", .primary⟩) := by decide +kernel
  have haccess : (findAccessPoint {} source (some "10.0.0.5") ()).outcome.toOption =
      some (some ⟨"10.0.0.9", .accessPoint⟩) := by decide +kernel
  obtain ⟨⟨primary, hfirst, hmatch⟩, accessPoint, hsecond, hother⟩ :=
    first_match_wins {} source () motley rfl (some "10.0.0.5")
  rw [hfirst] at hprimary ⊢
  rw [hsecond] at haccess ⊢
  obtain rfl := Option.some.inj hprimary
  obtain rfl := Option.some.inj haccess
  exact ⟨rfl, hmatch, rfl, hother⟩

end Warden.Network
