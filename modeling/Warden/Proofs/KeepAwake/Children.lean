import Warden.KeepAwake.ChildLock
import Warden.Proofs.Act.Keeps

/-!
# What becomes of the children

A child that blocks suspension is launched, and when it is let go it is terminated and left to a
reaper. Here the state of the host after each of these acts is written out, with what was done to
the children.

## Main definitions

* `fate deeds number`: what was done to a child after its launch
* `reaping child`: what the reaper does to a child
* `Aged children after`: the children are the same but for when they end

## Main results

* `acquires`, `state_letGo`: blocking suspension and letting go
* `state_reap`: the reaper waits, and kills a child that does not end in time
-/

namespace Warden.KeepAwake.ChildLock

open Warden.Numeric (Reading)

/-! ## What was done to a child -/

/-- The event is a launch. -/
def Event.isLaunch : Event → Bool
  | launched _ => true
  | _ => false

/-- What was done to the child of a number after its launch. -/
def fate (deeds : List Deed) (number : Nat) : List Event :=
  (deeds.filter fun deed => deed.number == number && !deed.event.isLaunch).map Deed.event

theorem fate_append (deeds more : List Deed) (number : Nat) :
    fate (deeds ++ more) number = fate deeds number ++ fate more number := by
  simp [fate]

@[simp] theorem fate_launched (number other : Nat) (words : List String) :
    fate [⟨number, .launched words⟩] other = [] := by
  simp [fate, Event.isLaunch]

/-- What is done to a child after its launch is done to no other one. -/
theorem fate_map {events : List Event} (hevents : ∀ event ∈ events, event.isLaunch = false)
    (number other : Nat) :
    fate (events.map (Deed.mk number)) other = if number = other then events else [] := by
  induction events with
  | nil => simp [fate]
  | cons event events ih =>
    have hrest := ih fun event h => hevents event (by simp [h])
    have hevent := hevents event (by simp)
    rw [List.map_cons, ← List.singleton_append, fate_append, hrest]
    by_cases hnumber : number = other <;> simp [fate, hnumber, hevent]

/-- The child does not end before a wait for a while times out. -/
def Child.isSlow (child : Child) : Bool :=
  !child.ended && 0 < child.slowWaits

/-- What the reaper does to a child: it is waited for, and exactly if this wait times out, it is
killed and waited for again. -/
def reaping (child : Child) : List Event :=
  .waited (some patience) ::
    if child.isSlow then [.killed child.pid, .waited none] else []

theorem isLaunch_of_mem_reaping {child : Child} {event : Event} (h : event ∈ reaping child) :
    event.isLaunch = false := by
  rw [reaping, List.mem_cons] at h
  rcases h with rfl | h
  · rfl
  · split at h
    · simp only [List.mem_cons, List.not_mem_nil, or_false] at h
      rcases h with rfl | rfl <;> rfl
    · cases h

theorem not_mem_reaping {child : Child} {pid : Int} : .terminated pid ∉ reaping child := by
  rw [reaping]
  split <;> simp

/-! ## Children that end -/

/-- A child is the same but for when it ends, and does not come back to life. -/
structure Child.Ages (child after : Child) : Prop where
  pid_eq : after.pid = child.pid
  terminateFailure_eq : after.terminateFailure = child.terminateFailure
  ended_of_ended : child.ended = true → after.ended = true

theorem Child.Ages.trans {child later last : Child} (h : child.Ages later)
    (hlater : later.Ages last) : child.Ages last where
  pid_eq := hlater.pid_eq.trans h.pid_eq
  terminateFailure_eq := hlater.terminateFailure_eq.trans h.terminateFailure_eq
  ended_of_ended hended := hlater.ended_of_ended (h.ended_of_ended hended)

/-- The children are the same but for when they end, and none comes back to life. -/
def Aged (children after : Array Child) : Prop :=
  ∀ number : Nat, Option.Rel Child.Ages children[number]? after[number]?

theorem aged_modify (children : Array Child) (number : Nat) (age : Child → Child)
    (hage : ∀ child : Child, child.Ages (age child)) : Aged children (children.modify number age) := by
  intro other
  rw [Array.getElem?_modify]
  cases children[other]? with
  | none => split <;> exact .none
  | some child =>
    split
    · exact .some (hage child)
    · exact .some ⟨rfl, rfl, id⟩

theorem aged_refl (children : Array Child) : Aged children children := by
  intro number
  cases children[number]? with
  | none => exact .none
  | some child => exact .some ⟨rfl, rfl, id⟩

/-- A child that is there was there before. -/
theorem Aged.exists_earlier {children later : Array Child} (h : Aged children later) {number : Nat}
    {last : Child} (hlast : later[number]? = some last) :
    ∃ child, children[number]? = some child ∧ child.Ages last := by
  have hrel := h number
  rw [hlast] at hrel
  cases hchild : children[number]? with
  | none =>
    rw [hchild] at hrel
    cases hrel
  | some child =>
    rw [hchild] at hrel
    cases hrel with
    | some hages => exact ⟨child, rfl, hages⟩

/-- A child that was there is there. -/
theorem Aged.exists_later {children later : Array Child} (h : Aged children later) {number : Nat}
    (child : Child) (hchild : children[number]? = some child) :
    ∃ last, later[number]? = some last ∧ child.Ages last := by
  have hrel := h number
  rw [hchild] at hrel
  cases hlast : later[number]? with
  | none =>
    rw [hlast] at hrel
    cases hrel
  | some last =>
    rw [hlast] at hrel
    cases hrel with
    | some hages => exact ⟨last, rfl, hages⟩

theorem Aged.eq_none {children later : Array Child} (h : Aged children later) {number : Nat}
    (hnone : later[number]? = none) : children[number]? = none := by
  cases hchild : children[number]? with
  | none => rfl
  | some child =>
    obtain ⟨last, hlast, -⟩ := h.exists_later child hchild
    rw [hnone] at hlast
    cases hlast

theorem Aged.trans {children later last : Array Child} (h : Aged children later)
    (hlater : Aged later last) : Aged children last := by
  intro number
  have hfirst := h number
  have hsecond := hlater number
  generalize children[number]? = child at hfirst ⊢
  generalize later[number]? = after at hfirst hsecond
  generalize last[number]? = final at hsecond ⊢
  cases hfirst with
  | none => exact hsecond
  | some hages =>
    cases hsecond with
    | some hmore =>
      exact .some (hages.trans hmore)

/-! ## Acts on the host -/

variable (host : LockHost)

/-- A host with one more deed. -/
def LockHost.noting (number : Nat) (event : Event) : LockHost :=
  { host with deeds := host.deeds ++ [⟨number, event⟩] }

/-- The ways in which blocking suspension ends: with an outcome, and with the host as it is
afterwards. -/
inductive Acquires : Except Failure Unit → LockHost → Prop
  /-- The program is not found. -/
  | missing (failure : Failure) : Acquires (.error failure) host
  /-- The launch fails. -/
  | refused (words : List String) (failure : Failure) :
      Acquires (.error failure) (host.noting host.children.size (.launched words))
  /-- The next child is launched. -/
  | launched (words : List String) :
      Acquires (.ok ())
        { host.noting host.children.size (.launched words) with
          children := host.children.push host.next
          current := some host.children.size }

/-- **Blocking suspension** ends in one of these ways. -/
theorem acquires (name : String) :
    Acquires host (acquire name host).outcome (acquire name host).state := by
  cases hfound : host.found with
  | none => simpa [acquire, hfound] using Acquires.missing _
  | some path =>
    cases hfailure : host.launchFailure with
    | none =>
      have hend : Acquires host _ _ := .launched (arguments path name)
      simpa [acquire, launch, record, LockHost.noting, hfound, hfailure] using hend
    | some failure =>
      have hend (other : Failure) : Acquires host _ _ := .refused (arguments path name) other
      by_cases hsystem : failure.isSystem <;>
        simpa [acquire, launch, record, LockHost.noting, hfound, hfailure, hsystem] using hend _

/-- Letting go terminates the current child if it still runs, and leaves it to a reaper unless
terminating it fails. -/
theorem state_letGo :
    (letGo host).state =
      match host.current.bind fun number => host.children[number]?.map (number, ·) with
      | none => { host with current := none }
      | some (number, child) =>
        if child.ended then { host with current := none }
        else { host with
          current := none
          left := if child.terminateFailure.isNone then host.left ++ [number] else host.left
          deeds := host.deeds ++ [⟨number, .terminated child.pid⟩] } := by
  cases hfound : host.current.bind fun number => host.children[number]?.map (number, ·) with
  | none => simp [letGo, hfound]
  | some found =>
    obtain ⟨number, child⟩ := found
    by_cases hended : child.ended
    · simp [letGo, hfound, hended]
    · cases hfailure : child.terminateFailure <;>
        simp [letGo, hfound, hended, terminate, record, hfailure]

theorem run_wait (number : Nat) (limit : Option Reading) :
    ∃ children, Aged host.children children ∧
      wait number limit host =
        ⟨.ok (!(host.children[number]?.getD default).isSlow),
          { host with children, deeds := host.deeds ++ [⟨number, .waited limit⟩] }, []⟩ := by
  cases hended : (host.children[number]?.getD default).ended with
  | true =>
    refine ⟨_, aged_modify host.children number (fun child => { child with ended := true })
      fun child => ⟨rfl, rfl, fun _ => rfl⟩, ?_⟩
    simp [wait, record, change, endChild, Act.run_bind, Child.isSlow, hended]
  | false =>
    cases hslow : (host.children[number]?.getD default).slowWaits with
    | zero =>
      refine ⟨_, aged_modify host.children number (fun child => { child with ended := true })
        fun child => ⟨rfl, rfl, fun _ => rfl⟩, ?_⟩
      simp [wait, record, change, endChild, Act.run_bind, Child.isSlow, hended, hslow]
    | succ more =>
      refine ⟨_, aged_modify host.children number (fun child => { child with slowWaits := more })
        fun child => ⟨rfl, rfl, id⟩, ?_⟩
      simp [wait, record, change, Act.run_bind, Child.isSlow, hended, hslow]

/-- **The reaper** of a child waits for it, and kills it if it does not end in time. -/
theorem state_reap (number : Nat) :
    ∃ children, Aged host.children children ∧
      (reap number host).state = { host with
        children
        deeds := host.deeds ++
          (reaping (host.children[number]?.getD default)).map (Deed.mk number) } := by
  obtain ⟨children, haged, hwait⟩ := run_wait host number (some patience)
  cases hslow : (host.children[number]?.getD default).isSlow with
  | false => exact ⟨children, haged, by simp [reap, hwait, reaping, hslow]⟩
  | true =>
    -- The first wait times out, and the second one finds the child as the first one left it.
    obtain ⟨last, hlast, hagain⟩ := run_wait { host with
      children
      deeds := host.deeds ++ [⟨number, .waited (some patience)⟩] ++
        [⟨number, .killed (host.children[number]?.getD default).pid⟩] } number none
    refine ⟨last, haged.trans hlast, ?_⟩
    simp only [List.append_assoc, List.cons_append, List.nil_append] at hagain
    simp [reap, hwait, reaping, hslow, record, hagain]

/-- The reaper of a child that was left to one comes once. -/
theorem state_reapLeft {number : Nat} (h : number ∈ host.left) :
    ∃ children, Aged host.children children ∧
      (reapLeft number host).state = { host with
        children
        left := host.left.erase number
        deeds := host.deeds ++
          (reaping (host.children[number]?.getD default)).map (Deed.mk number) } := by
  have hreap : (reapLeft number host).state =
      (reap number { host with left := host.left.erase number }).state := by
    simp [reapLeft, h]
  rw [hreap]
  exact state_reap { host with left := host.left.erase number } number

theorem state_reapLeft_of_notMem {number : Nat} (h : number ∉ host.left) :
    (reapLeft number host).state = host := by
  simp [reapLeft, h]

end Warden.KeepAwake.ChildLock
