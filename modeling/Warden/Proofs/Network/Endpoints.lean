import Mathlib.Data.List.Pairwise
import Warden.Network.Search
import Warden.Proofs.Act.Keeps
import Warden.Proofs.Network.Written

/-!
# The endpoints that are found

Whatever interfaces the platform lists, and even if it lists others when it is asked again, the
endpoints that are found have different roles and different addresses, and each address is written
as four numbers of at most 255. A place that is made of such an address can be quoted as it is.

## Main definitions

* `IsDottedQuad`: four numbers of at most 255 with points between them
* `IsPlain`: a text of letters, digits and the marks of a place
* `Separate`: no two of the endpoints have a role or an address in common
* `candidate?`: the endpoint of a role at one interface

## Main results

* `isPlain_urlAt`: the place of an endpoint is plain
* `candidate?_eq_some_iff`, `firstEndpoint?_eq_findSome?`: the endpoint at one interface, and the
  first one among interfaces
* `yields_findBoth`: what is found is separate, and nothing is found if nothing can be listed
-/

namespace Warden

open Warden.Act (Keeps Yields)

/-! ## Texts of addresses and places -/

/-- The text is four numbers of at most 255 with points between them. A number is written without
leading zeros. -/
def IsDottedQuad (text : String) : Prop :=
  ∃ a b c d : Nat, a ≤ 255 ∧ b ≤ 255 ∧ c ≤ 255 ∧ d ≤ 255 ∧ text = s!"{a}.{b}.{c}.{d}"

/-- The text consists of letters, digits, and the marks between the parts of a place. -/
def IsPlain (text : String) : Prop :=
  ∀ c ∈ text.toList, c.isAlphanum = true ∨ c ∈ [':', '/', '.']

instance : DecidablePred IsPlain :=
  fun text => List.decidableBAll _ text.toList

theorem IsPlain.append {text more : String} (h : IsPlain text) (hmore : IsPlain more) :
    IsPlain (text ++ more) := by
  intro c hc
  rw [String.toList_append, List.mem_append] at hc
  exact hc.elim (h c) (hmore c)

theorem isPlain_toString (n : Nat) : IsPlain (toString n) := by
  intro c hc
  rw [Nat.toString_eq_repr, Nat.toList_repr] at hc
  have hdigit : c.isDigit = true := Nat.isDigit_of_mem_toDigits (by decide) (by decide) hc
  exact .inl (by simp [Char.isAlphanum, hdigit])

/-- A plain text can be quoted as it is. -/
theorem IsPlain.quotable {text : String} (h : IsPlain text) : '\'' ∉ text.toList := by
  intro hquote
  rcases h _ hquote with halphanum | hmark
  · revert halphanum
    decide
  · revert hmark
    decide

theorem IsDottedQuad.isPlain {text : String} (h : IsDottedQuad text) : IsPlain text := by
  obtain ⟨a, b, c, d, -, -, -, -, rfl⟩ := h
  have hpoint : IsPlain "." := by decide
  have hab : IsPlain (toString a ++ "." ++ toString b) :=
    ((isPlain_toString a).append hpoint).append (isPlain_toString b)
  have habc : IsPlain (toString a ++ "." ++ toString b ++ "." ++ toString c) :=
    (hab.append hpoint).append (isPlain_toString c)
  exact (habc.append hpoint).append (isPlain_toString d)

/-- **The place of an endpoint** is plain. -/
theorem isPlain_urlAt {endpoint : Endpoint} (haddress : IsDottedQuad endpoint.address) {port : Int}
    (hport : 0 < port) : IsPlain (endpoint.urlAt (toString port)) := by
  have hstart : IsPlain "http://" := by decide
  have hcolon : IsPlain ":" := by decide
  have hnumber : IsPlain (toString port) := by
    lift port to Nat using Int.le_of_lt hport
    exact isPlain_toString port
  exact ((hstart.append haddress.isPlain).append hcolon).append hnumber

namespace Network

/-- The address of an interface is in its written form. -/
theorem isDottedQuad_of_address? {interface : Interface} {address : String}
    (h : interface.address? = some address) : IsDottedQuad address := by
  obtain ⟨a, b, c, d, ha, hb, hc, hd, -, htext⟩ := (isOutward_of_firstAddress? h).2
  exact ⟨a, b, c, d, ha, hb, hc, hd, htext⟩

/-- No two of the endpoints have a role or an address in common, and every address is in its
written form. -/
structure Separate (endpoints : List Endpoint) : Prop where
  apart : endpoints.Pairwise fun one other => one.role ≠ other.role ∧ one.address ≠ other.address
  dotted : ∀ endpoint ∈ endpoints, IsDottedQuad endpoint.address

/-- Of two endpoints at one address or in one role, both are the same. -/
theorem Separate.eq {endpoints : List Endpoint} (h : Separate endpoints) {one other : Endpoint}
    (hone : one ∈ endpoints) (hother : other ∈ endpoints)
    (hcommon : one.role = other.role ∨ one.address = other.address) : one = other := by
  by_contra hne
  have hsymm : Std.Symm fun one other : Endpoint =>
      one.role ≠ other.role ∧ one.address ≠ other.address :=
    ⟨fun _ _ hapart => ⟨hapart.1.symm, hapart.2.symm⟩⟩
  obtain ⟨hrole, haddress⟩ := h.apart.forall hone hother hne
  exact hcommon.elim hrole haddress

/-! ## The endpoint of one role -/

/-- The endpoint of a role at one interface. -/
def candidate? (role : Role) (isNamed isFitting : String → Bool) (interface : Interface) :
    Option Endpoint :=
  if interface.isActive then
    if isNamed interface.name then
      (interface.address?.filter isFitting).map fun address => ⟨address, role⟩
    else none
  else none

section Candidates

variable {role : Role} {isNamed isFitting : String → Bool} {interfaces : List Interface}
  {endpoint : Endpoint}

/-- **The endpoint at one interface** has the role and the address of the interface, which is up and
carries a name of the role. -/
theorem candidate?_eq_some_iff {interface : Interface} :
    candidate? role isNamed isFitting interface = some endpoint ↔
      endpoint.role = role ∧ isFitting endpoint.address = true ∧ interface.isUp = true ∧
        isNamed interface.name = true ∧ interface.address? = some endpoint.address := by
  rw [candidate?]
  constructor
  · intro h
    split_ifs at h with hactive hnamed
    obtain ⟨address, hfiltered, rfl⟩ := Option.map_eq_some_iff.mp h
    obtain ⟨haddress, hfitting⟩ := Option.filter_eq_some_iff.mp hfiltered
    rw [Interface.isActive, Bool.and_eq_true] at hactive
    exact ⟨rfl, hfitting, hactive.1, hnamed, haddress⟩
  · obtain ⟨address, own⟩ := endpoint
    rintro ⟨rfl, hfitting, hup, hnamed, haddress⟩
    -- An interface with an address is not left out as inactive.
    have hactive : interface.isActive = true := by
      rw [Interface.isActive, hup, haddress]
      rfl
    rw [if_pos hactive, if_pos hnamed, haddress, Option.filter_some, if_pos hfitting,
      Option.map_some]

/-- Leaving out the inactive interfaces first does not change what is found. -/
theorem firstEndpoint?_eq_findSome? (interfaces : List Interface) :
    firstEndpoint? role isNamed isFitting interfaces =
      interfaces.findSome? (candidate? role isNamed isFitting) := by
  rw [firstEndpoint?]
  induction interfaces with
  | nil => rfl
  | cons interface interfaces ih =>
    rw [List.findSome?_cons, candidate?, List.filter_cons]
    by_cases hactive : interface.isActive = true
    · rw [if_pos hactive, if_pos hactive, List.findSome?_cons, ih]
    · rw [if_neg hactive, if_neg hactive, ih]

/-- The endpoint that is found among interfaces has the role and a fitting address, which is that of
an interface that is up and carries a name of the role. -/
theorem of_firstEndpoint? (h : firstEndpoint? role isNamed isFitting interfaces = some endpoint) :
    endpoint.role = role ∧ isFitting endpoint.address = true ∧
      ∃ interface ∈ interfaces, interface.isUp = true ∧ isNamed interface.name = true ∧
        interface.address? = some endpoint.address := by
  rw [firstEndpoint?_eq_findSome?] at h
  obtain ⟨interface, hmem, hfound⟩ := List.exists_of_findSome?_eq_some h
  obtain ⟨hrole, hfitting, hstands⟩ := candidate?_eq_some_iff.mp hfound
  exact ⟨hrole, hfitting, interface, hmem, hstands⟩

end Candidates

/-! ## The endpoints of both roles -/

/-- **The endpoints of both roles**, found at different addresses, come in order and apart. -/
theorem pairwise_found {primary accessPoint : Option Endpoint}
    (hprimary : ∀ endpoint, primary = some endpoint → endpoint.role = .primary)
    (haccess : ∀ endpoint, accessPoint = some endpoint →
      endpoint.role = .accessPoint ∧ primary.map (·.address) ≠ some endpoint.address) :
    (primary.toList ++ accessPoint.toList).Pairwise fun one other =>
      one.role = .primary ∧ other.role = .accessPoint ∧ one.address ≠ other.address := by
  -- There is at most one endpoint of each role.
  cases primary with
  | none => cases accessPoint <;> simp
  | some first =>
    cases accessPoint with
    | none => simp
    | some second =>
      obtain ⟨hother, hexcluded⟩ := haccess second rfl
      have hapart : first.address ≠ second.address := fun heq => hexcluded (congrArg some heq)
      simpa using ⟨hprimary first rfl, hother, hapart⟩

theorem mem_found {primary accessPoint : Option Endpoint} {endpoint : Endpoint} :
    endpoint ∈ primary.toList ++ accessPoint.toList ↔
      primary = some endpoint ∨ accessPoint = some endpoint := by
  simp [Option.mem_toList]

section Source

variable {ε : Type} {P : ε → Prop} {source : Source ε}
variable (hsource : Keeps P (fun f => f.isUnlisted = true) source)
include hsource

/-- Interfaces that cannot be listed count as none. -/
theorem yields_listed : Yields P (listed source) fun _ => P := by
  refine .recover hsource (fun _ hf => hf) (fun _ _ hs => hs) fun f => ?_
  exact ((Keeps.note ..).bind fun _ => .pure []).yields

theorem yields_findPrimary (naming : Naming) :
    Yields P (findPrimary naming source) fun primary s =>
      P s ∧ ∀ endpoint, primary = some endpoint →
        endpoint.role = .primary ∧ IsDottedQuad endpoint.address := by
  refine (yields_listed hsource).bind fun interfaces => .pure fun s hs => ⟨hs, ?_⟩
  intro endpoint hfound
  obtain ⟨hrole, -, interface, -, -, -, haddress⟩ := of_firstEndpoint? hfound
  exact ⟨hrole, isDottedQuad_of_address? haddress⟩

theorem yields_findAccessPoint (naming : Naming) (excluded : Option String) :
    Yields P (findAccessPoint naming source excluded) fun accessPoint s =>
      P s ∧ ∀ endpoint, accessPoint = some endpoint →
        endpoint.role = .accessPoint ∧ IsDottedQuad endpoint.address ∧
          excluded ≠ some endpoint.address := by
  refine (yields_listed hsource).bind fun interfaces => .pure fun s hs => ⟨hs, ?_⟩
  intro endpoint hfound
  obtain ⟨hrole, hfitting, interface, -, -, -, haddress⟩ := of_firstEndpoint? hfound
  exact ⟨hrole, isDottedQuad_of_address? haddress, by simpa using hfitting⟩

/-- **The endpoints that are found** are separate, whatever is listed each time. -/
theorem yields_findBoth (naming : Naming) :
    Yields P (findBoth naming source) fun endpoints s => P s ∧ Separate endpoints := by
  refine (yields_findPrimary hsource naming).bind fun primary => ?_
  refine Yields.bind (Q := fun accessPoint s => P s ∧ Separate (primary.toList ++ accessPoint.toList))
    (fun s ⟨hs, hprimary⟩ => ?_) fun accessPoint => .pure fun s hs => hs
  obtain ⟨accessPoint, houtcome, hafter, haccess⟩ :=
    yields_findAccessPoint hsource naming (primary.map (·.address)) s hs
  refine ⟨accessPoint, houtcome, hafter, ?_, fun endpoint hmem => ?_⟩
  · refine (pairwise_found (fun endpoint h => (hprimary endpoint h).1) fun endpoint h =>
      ⟨(haccess endpoint h).1, (haccess endpoint h).2.2⟩).imp ?_
    rintro one other ⟨hone, hother, hapart⟩
    exact ⟨by simp [hone, hother], hapart⟩
  · rcases mem_found.mp hmem with h | h
    · exact (hprimary endpoint h).2
    · exact (haccess endpoint h).2.1

end Source

end Network

end Warden
