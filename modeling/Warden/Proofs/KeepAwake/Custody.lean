import Mathlib.Data.List.Induction
import Mathlib.Data.List.Nodup
import Warden.Proofs.KeepAwake.Children
import Warden.Proofs.KeepAwake.Token

/-!
# No child is leaked or doubled

The token is taken and given back over a host on which children block suspension. The lock by itself
forgets its child when it is taken twice; it is the token that keeps this from happening. A run is
followed on the roll of the children: the ways in which a turn changes the roll are listed, and what
holds of every roll is read off them.

## Main definitions

* `Turn`, `after`: runs of the token on the host
* `Roll`, `roll`: what is kept of the token and the host
* `Roll.Passes`: the ways in which a turn changes the roll
* `Roll.Kept`: the invariant

## Main results

* `passes`: these are all the ways
* `Roll.Kept.passes`: each of them keeps the invariant
* `children_kept`: no child is leaked or doubled, and each terminated one is reaped
-/

namespace Warden.KeepAwake.ChildLock

open Warden.Numeric (Reading)

/-! ## Runs -/

/-- What a launch depends on: where the program is found, why it cannot be launched, and the child
that is launched. -/
structure Circumstances where
  found : Option String
  launchFailure : Option Failure
  next : Child

/-- A host in other circumstances. -/
def Circumstances.host (circumstances : Circumstances) (host : LockHost) : LockHost :=
  { host with
    found := circumstances.found
    launchFailure := circumstances.launchFailure
    next := circumstances.next }

/-- What happens to the token and the children. Blocks with the token may overlap: each is entered
and left at some time. -/
inductive Turn where
  | acquire (circumstances : Circumstances)
  | release
  | enter (circumstances : Circumstances)
  | leave
  /-- A child ends by itself. -/
  | exit (number : Nat)
  /-- The reaper of a child comes, if the child was left to one. -/
  | reap (number : Nat)

/-- An act in some circumstances. -/
def amid {α : Type} (circumstances : Circumstances) (act : Act (Awake LockHost) α) :
    Act (Awake LockHost) α := do
  outside (Act.modify circumstances.host)
  act

theorem run_amid {α : Type} (circumstances : Circumstances) (act : Act (Awake LockHost) α)
    (awake : Awake LockHost) : amid circumstances act awake =
      act { awake with outside := circumstances.host awake.outside } := rfl

/-- A turn as an act. -/
def Turn.act : Turn → Act (Awake LockHost) Unit
  | acquire circumstances => amid circumstances (KeepAwake.acquire inhibitor)
  | enter circumstances => amid circumstances (discard (KeepAwake.enter inhibitor))
  | release | leave => KeepAwake.release inhibitor
  | exit number => outside (endChild number)
  | reap number => outside (reapLeft number)

/-- A token of a name that has never been taken, on a host of a program without children. -/
def fresh (name program : String) : Awake LockHost where
  token := { name }
  outside := { program }

/-- The token and the host after a run. -/
def after (awake : Awake LockHost) (turns : List Turn) : Awake LockHost :=
  turns.foldl (fun awake turn => (turn.act awake).state) awake

/-! ## The roll -/

/-- What is kept of the token and the host. -/
structure Roll where
  held : Bool
  children : Array Child
  current : Option Nat
  left : List Nat
  deeds : List Deed

/-- The roll of the children. -/
def roll (awake : Awake LockHost) : Roll where
  held := awake.token.held
  children := awake.outside.children
  current := awake.outside.current
  left := awake.outside.left
  deeds := awake.outside.deeds

namespace Roll

/-- What was done to the child of a number after its launch. -/
def fate (roll : Roll) (number : Nat) : List Event :=
  ChildLock.fate roll.deeds number

/-- The child of a number runs, and nobody has terminated it. -/
def IsLoose (roll : Roll) (number : Nat) : Prop :=
  ∃ child, roll.children[number]? = some child ∧ child.ended = false ∧
    ∀ pid, .terminated pid ∉ roll.fate number

/-- The roll after a launch that failed. -/
def refusing (roll : Roll) (words : List String) : Roll :=
  { roll with deeds := roll.deeds ++ [⟨roll.children.size, .launched words⟩] }

/-- The roll after the launch of a child, for which the token is held. -/
def launching (roll : Roll) (words : List String) (child : Child) : Roll :=
  { roll.refusing words with
    held := true
    children := roll.children.push child
    current := some roll.children.size }

/-- The roll after the token was given back. -/
def releasing (roll : Roll) : Roll :=
  { roll with held := false, current := none }

/-- The roll after the token was given back and a child terminated. -/
def terminating (roll : Roll) (number : Nat) (child : Child) : Roll :=
  { roll.releasing with
    left := if child.terminateFailure.isNone then roll.left ++ [number] else roll.left
    deeds := roll.deeds ++ [⟨number, .terminated child.pid⟩] }

/-- The roll after a child that was left to a reaper was reaped, with the children as they are
then. -/
def reapingOf (roll : Roll) (number : Nat) (children : Array Child) : Roll :=
  { roll with
    children
    left := roll.left.erase number
    deeds := roll.deeds ++
      (reaping (roll.children[number]?.getD default)).map (Deed.mk number) }

/-- The ways in which a turn changes the roll. -/
inductive Passes (roll : Roll) : Roll → Prop
  /-- Nothing happens to the children. -/
  | idle : Passes roll roll
  /-- A launch fails. -/
  | refused (words : List String) (hheld : roll.held = false) : Passes roll (roll.refusing words)
  /-- A child is launched. -/
  | launched (words : List String) (child : Child) (hheld : roll.held = false) :
      Passes roll (roll.launching words child)
  /-- The token is given back, and the current child does not run. -/
  | released (hidle : ∀ number child, roll.current = some number →
        roll.children[number]? = some child → child.ended = true) :
      Passes roll roll.releasing
  /-- The token is given back, and the current child is terminated. -/
  | terminated (number : Nat) (child : Child) (hcurrent : roll.current = some number)
      (hchild : roll.children[number]? = some child) (hended : child.ended = false) :
      Passes roll (roll.terminating number child)
  /-- Children end. -/
  | aged (children : Array Child) (haged : Aged roll.children children) :
      Passes roll { roll with children }
  /-- A child that was left to a reaper is reaped. -/
  | reaped (number : Nat) (children : Array Child) (hleft : number ∈ roll.left)
      (haged : Aged roll.children children) : Passes roll (roll.reapingOf number children)

end Roll

/-! ## What a turn does to the roll -/

/-- Taking the token launches a child, or fails to do so, if it is not held. -/
theorem passes_acquire (awake : Awake LockHost) :
    (roll awake).Passes (roll (KeepAwake.acquire inhibitor awake).state) := by
  rw [KeepAwake.state_acquire]
  by_cases hheld : awake.token.held
  · rw [if_pos hheld]
    exact .idle
  · have hfree : (roll awake).held = false := Bool.eq_false_iff.mpr hheld
    have hend : Acquires awake.outside (asked inhibitor awake).outcome
      (asked inhibitor awake).state := acquires awake.outside awake.token.name
    rw [if_neg hheld]
    generalize (asked inhibitor awake).outcome = outcome at hend ⊢
    generalize (asked inhibitor awake).state = host at hend ⊢
    cases hend with
    | missing =>
      have hidle : (roll awake).Passes _ := .idle
      simpa [roll, hheld] using hidle
    | refused words =>
      have hrefused : (roll awake).Passes _ := .refused words hfree
      simpa [roll, Roll.refusing, hheld, LockHost.noting] using hrefused
    | launched words => exact .launched words awake.outside.next hfree

/-- Giving the token back terminates the current child, if the token is held. -/
theorem passes_release (awake : Awake LockHost) :
    (roll awake).Passes (roll (KeepAwake.release inhibitor awake).state) := by
  rw [KeepAwake.state_release]
  by_cases hheld : awake.token.held
  · have hlet : inhibitor.release awake.outside = letGo awake.outside := rfl
    rw [if_pos hheld, hlet, state_letGo]
    split
    · next hnone =>
      refine .released fun number child hcurrent hchild => ?_
      simp_all [roll]
    · next number child hsome =>
      have hfound : awake.outside.current = some number ∧
          awake.outside.children[number]? = some child := by
        obtain ⟨other, hcurrent, hpair⟩ := Option.bind_eq_some_iff.mp hsome
        obtain ⟨last, hchild, heq⟩ := Option.map_eq_some_iff.mp hpair
        obtain ⟨rfl, rfl⟩ := Prod.mk.inj heq
        exact ⟨hcurrent, hchild⟩
      split
      · next hended =>
        refine .released fun other last hcurrent hchild => ?_
        simp_all [roll]
      · next hended => exact .terminated number child hfound.1 hfound.2 (Bool.eq_false_iff.mpr hended)
  · rw [if_neg hheld]
    exact .idle

/-- The reaper of a child comes if the child was left to one. -/
theorem roll_reap (awake : Awake LockHost) {number : Nat} (hleft : number ∈ (roll awake).left) :
    ∃ children, Aged (roll awake).children children ∧
      roll ((Turn.reap number).act awake).state = (roll awake).reapingOf number children := by
  obtain ⟨children, haged, hreap⟩ := state_reapLeft awake.outside hleft
  have hact : ((Turn.reap number).act awake).state =
      { awake with outside := (reapLeft number awake.outside).state } := rfl
  refine ⟨children, haged, ?_⟩
  rw [hact, hreap]
  rfl

theorem passes_reap (awake : Awake LockHost) (number : Nat) :
    (roll awake).Passes (roll ((Turn.reap number).act awake).state) := by
  by_cases hleft : number ∈ (roll awake).left
  · obtain ⟨children, haged, hroll⟩ := roll_reap awake hleft
    rw [hroll]
    exact .reaped number children hleft haged
  · have hact : ((Turn.reap number).act awake).state =
        { awake with outside := (reapLeft number awake.outside).state } := rfl
    rw [hact, state_reapLeft_of_notMem awake.outside hleft]
    exact .idle

/-- **Every turn** changes the roll in one of these ways. -/
theorem passes (awake : Awake LockHost) (turn : Turn) :
    (roll awake).Passes (roll (turn.act awake).state) := by
  have hroll (circumstances : Circumstances) :
      roll awake = roll { awake with outside := circumstances.host awake.outside } := rfl
  cases turn with
  | acquire circumstances =>
    rw [Turn.act, run_amid, hroll circumstances]
    exact passes_acquire _
  | enter circumstances =>
    rw [Turn.act, run_amid, hroll circumstances, Act.state_discard, state_enter]
    exact passes_acquire _
  | release | leave => exact passes_release awake
  | exit number =>
    exact .aged _ (aged_modify _ number _ fun child => ⟨rfl, rfl, fun _ => rfl⟩)
  | reap number => exact passes_reap awake number

/-! ## The invariant -/

namespace Roll

/-- What may have been done to a child since its launch. -/
inductive Fates (roll : Roll) (number : Nat) : Prop
  /-- Nothing. -/
  | spared (hfate : roll.fate number = []) (hleft : number ∉ roll.left)
  /-- It was terminated, and was left to a reaper unless this failed. -/
  | terminated (child : Child) (hchild : roll.children[number]? = some child)
      (hfate : roll.fate number = [.terminated child.pid])
      (hleft : number ∈ roll.left ↔ child.terminateFailure.isNone = true)
  /-- It was terminated, and then reaped as it was found by its reaper. -/
  | reaped (child found : Child) (hchild : roll.children[number]? = some child)
      (hfound : found.Ages child)
      (hfailure : child.terminateFailure.isNone = true)
      (hfate : roll.fate number = .terminated child.pid :: reaping found)
      (hleft : number ∉ roll.left)

/-- A child that runs and was not terminated is the current one, and the token is held. Nothing was
done to the current child, nor to one that is still to be launched. -/
structure Kept (roll : Roll) : Prop where
  held_of_loose : ∀ number, roll.IsLoose number → roll.held = true ∧ roll.current = some number
  spared_current : ∀ number, roll.current = some number → roll.fate number = []
  spared_unborn : ∀ number, roll.children[number]? = none → roll.fate number = []
  nodup_left : roll.left.Nodup
  fates : ∀ number, roll.Fates number

variable {roll later : Roll} {number : Nat}

/-- A child that runs and was not terminated was so before it aged. -/
theorem IsLoose.of_aged (h : later.IsLoose number) (hfate : later.fate number = roll.fate number)
    (haged : Aged roll.children later.children) : roll.IsLoose number := by
  obtain ⟨last, hlast, hrunning, hspared⟩ := h
  obtain ⟨child, hchild, hages⟩ := haged.exists_earlier hlast
  refine ⟨child, hchild, ?_, hfate ▸ hspared⟩
  by_contra hended
  have hlong := hages.ended_of_ended (by simpa using hended)
  rw [hrunning] at hlong
  cases hlong

/-- What was done to a child stays as it is while nothing more is done to it. -/
theorem Fates.congr (h : roll.Fates number) (hfate : later.fate number = roll.fate number)
    (hleft : number ∈ later.left ↔ number ∈ roll.left)
    (hlater : ∀ child, roll.children[number]? = some child →
      ∃ last, later.children[number]? = some last ∧ child.Ages last) : later.Fates number := by
  cases h with
  | spared hspared hnot => exact .spared (hfate.trans hspared) fun hmem => hnot (hleft.mp hmem)
  | terminated child hchild hdone hiff =>
    obtain ⟨last, hlast, hages⟩ := hlater child hchild
    refine .terminated last hlast ?_ ?_
    · rw [hfate, hdone, hages.pid_eq]
    · rw [hleft, hiff, hages.terminateFailure_eq]
  | reaped child found hchild hfound hfailure hdone hnot =>
    obtain ⟨last, hlast, hages⟩ := hlater child hchild
    refine .reaped last found hlast (hfound.trans hages) ?_ ?_ fun hmem => hnot (hleft.mp hmem)
    · rw [hages.terminateFailure_eq, hfailure]
    · rw [hfate, hdone, hages.pid_eq]

namespace Kept

/-- A child that is left to a reaper was terminated. -/
theorem fate_of_mem_left (kept : roll.Kept) (h : number ∈ roll.left) :
    ∃ child, roll.children[number]? = some child ∧ child.terminateFailure.isNone = true ∧
      roll.fate number = [.terminated child.pid] := by
  cases kept.fates number with
  | spared _ hleft | reaped _ _ _ _ _ _ hleft => exact absurd h hleft
  | terminated child hchild hfate hleft => exact ⟨child, hchild, hleft.mp h, hfate⟩

theorem not_mem_left (kept : roll.Kept) (h : roll.fate number = []) : number ∉ roll.left := by
  intro hleft
  obtain ⟨child, -, -, hfate⟩ := kept.fate_of_mem_left hleft
  rw [h] at hfate
  cases hfate

theorem refused (kept : roll.Kept) (words : List String) : (roll.refusing words).Kept := by
  have hfate (number : Nat) : (roll.refusing words).fate number = roll.fate number := by
    simp [refusing, fate, fate_append]
  exact {
    held_of_loose := fun number h =>
      kept.held_of_loose number (h.of_aged (hfate number) (aged_refl _))
    spared_current := fun number h => (hfate number).trans (kept.spared_current number h)
    spared_unborn := fun number h => (hfate number).trans (kept.spared_unborn number h)
    nodup_left := kept.nodup_left
    fates := fun number =>
      (kept.fates number).congr (hfate number) Iff.rfl (aged_refl _).exists_later }

/-- **A launch** of a child while the token is not held. -/
theorem launched (kept : roll.Kept) (hheld : roll.held = false) (words : List String)
    (child : Child) : (roll.launching words child).Kept := by
  have hfate (number : Nat) : (roll.launching words child).fate number = roll.fate number := by
    simp [launching, refusing, fate, fate_append]
  have hborn {number : Nat} {other : Child} (h : roll.children[number]? = some other) :
      (roll.children.push child)[number]? = some other := by
    rw [Array.getElem?_push, if_neg (by grind), h]
  refine ⟨fun number hloose => ⟨rfl, ?_⟩, fun number h => ?_, fun number h => ?_, kept.nodup_left,
    fun number => ?_⟩
  · obtain ⟨other, hother, hrunning, hspared⟩ := hloose
    rw [launching, Array.getElem?_push] at hother
    split at hother
    · next heq => rw [launching, heq]
    · -- No child was loose before, since the token was not held.
      rw [hfate] at hspared
      have hbefore := kept.held_of_loose number ⟨other, hother, hrunning, hspared⟩
      rw [hheld] at hbefore
      cases hbefore.1
  · obtain rfl := Option.some.inj h
    rw [hfate]
    exact kept.spared_unborn _ (by simp)
  · rw [hfate]
    refine kept.spared_unborn number ?_
    cases hchild : roll.children[number]? with
    | none => rfl
    | some other => exact absurd (h.symm.trans (hborn hchild)) (by simp)
  · exact (kept.fates number).congr (hfate number) Iff.rfl fun other hother =>
      ⟨other, hborn hother, rfl, rfl, id⟩

/-- The token is given back, and the current child does not run. -/
theorem released (kept : roll.Kept) (hidle : ∀ number child, roll.current = some number →
    roll.children[number]? = some child → child.ended = true) : roll.releasing.Kept where
  held_of_loose number h := by
    obtain ⟨child, hchild, hrunning, hspared⟩ := h
    obtain ⟨-, hcurrent⟩ := kept.held_of_loose number ⟨child, hchild, hrunning, hspared⟩
    rw [hidle number child hcurrent hchild] at hrunning
    cases hrunning
  spared_current number h := by cases h
  spared_unborn := kept.spared_unborn
  nodup_left := kept.nodup_left
  fates number := (kept.fates number).congr rfl Iff.rfl (aged_refl _).exists_later

/-- **The current child is terminated**, to which nothing had been done. -/
theorem terminated (kept : roll.Kept) {child : Child} (hcurrent : roll.current = some number)
    (hchild : roll.children[number]? = some child) : (roll.terminating number child).Kept := by
  have hfate (other : Nat) : (roll.terminating number child).fate other =
      roll.fate other ++ if number = other then [.terminated child.pid] else [] := by
    rw [← fate_map (by simp [Event.isLaunch]), fate, fate, ← fate_append]
    rfl
  have hspared := kept.spared_current number hcurrent
  have hdone : (roll.terminating number child).fate number = [.terminated child.pid] := by
    rw [hfate, hspared, if_pos rfl, List.nil_append]
  have hother {other : Nat} (h : number ≠ other) :
      (roll.terminating number child).fate other = roll.fate other := by
    rw [hfate, if_neg h, List.append_nil]
  have hnot := kept.not_mem_left hspared
  have hleft (other : Nat) : other ∈ (roll.terminating number child).left ↔
      other ∈ roll.left ∨ (other = number ∧ child.terminateFailure.isNone = true) := by
    rw [terminating]
    cases child.terminateFailure.isNone <;> simp
  refine ⟨fun other hloose => ?_, fun other h => ?_, fun other h => ?_, ?_, fun other => ?_⟩
  · by_cases heq : number = other
    · obtain ⟨-, -, -, hnone⟩ := hloose
      rw [← heq, hdone] at hnone
      exact absurd (List.mem_singleton.mpr rfl) (hnone child.pid)
    · obtain ⟨-, hlast⟩ := kept.held_of_loose other (hloose.of_aged (hother heq) (aged_refl _))
      exact absurd (Option.some.inj (hcurrent.symm.trans hlast)) heq
  · cases h
  · have heq : number ≠ other := by
      rintro rfl
      exact absurd (hchild.symm.trans h) (by simp)
    rw [hother heq]
    exact kept.spared_unborn other h
  · rw [terminating]
    split
    · exact List.nodup_append.mpr ⟨kept.nodup_left, List.nodup_singleton _, by grind⟩
    · exact kept.nodup_left
  · by_cases heq : number = other
    · subst heq
      exact .terminated child hchild hdone (by rw [hleft]; simp [hnot])
    · refine (kept.fates other).congr (hother heq) ?_ (aged_refl _).exists_later
      rw [hleft]
      simp [Ne.symm heq]

/-- Children end. -/
theorem aged (kept : roll.Kept) {children : Array Child} (haged : Aged roll.children children) :
    Kept { roll with children } where
  held_of_loose number h := kept.held_of_loose number (h.of_aged rfl haged)
  spared_current := kept.spared_current
  spared_unborn number h := kept.spared_unborn number (haged.eq_none h)
  nodup_left := kept.nodup_left
  fates number := (kept.fates number).congr rfl Iff.rfl haged.exists_later

theorem fate_reapingOf {child : Child} (hchild : roll.children[number]? = some child)
    (children : Array Child) (other : Nat) :
    (roll.reapingOf number children).fate other =
      roll.fate other ++ if number = other then reaping child else [] := by
  rw [← fate_map fun event => isLaunch_of_mem_reaping, fate, fate, ← fate_append, reapingOf,
    hchild, Option.getD_some]

/-- **The reaper comes** to a child that was left to one. -/
theorem reaped (kept : roll.Kept) {children : Array Child} (hmem : number ∈ roll.left)
    (haged : Aged roll.children children) : (roll.reapingOf number children).Kept := by
  obtain ⟨child, hchild, hfailure, hbefore⟩ := kept.fate_of_mem_left hmem
  have hfate := fate_reapingOf hchild children
  have hother {other : Nat} (h : number ≠ other) :
      (roll.reapingOf number children).fate other = roll.fate other := by
    rw [hfate, if_neg h, List.append_nil]
  have hdone : (roll.reapingOf number children).fate number =
      .terminated child.pid :: reaping child := by
    rw [hfate, hbefore, if_pos rfl, List.singleton_append]
  refine ⟨fun other hloose => ?_, fun other h => ?_, fun other h => ?_, kept.nodup_left.erase number,
    fun other => ?_⟩
  · by_cases heq : number = other
    · obtain ⟨-, -, -, hnone⟩ := hloose
      rw [← heq, hdone] at hnone
      exact absurd List.mem_cons_self (hnone child.pid)
    · exact kept.held_of_loose other (hloose.of_aged (hother heq) haged)
  · have hspared := kept.spared_current other h
    have heq : number ≠ other := by
      rintro rfl
      rw [hbefore] at hspared
      cases hspared
    rw [hother heq, hspared]
  · have hnone := haged.eq_none h
    have heq : number ≠ other := by
      rintro rfl
      rw [hchild] at hnone
      cases hnone
    rw [hother heq]
    exact kept.spared_unborn other hnone
  · by_cases heq : number = other
    · subst heq
      obtain ⟨last, hlast, hages⟩ := haged.exists_later child hchild
      refine .reaped last child hlast hages ?_ ?_ kept.nodup_left.not_mem_erase
      · rw [hages.terminateFailure_eq, hfailure]
      · rw [hdone, hages.pid_eq]
    · exact (kept.fates other).congr (hother heq) (List.mem_erase_of_ne (Ne.symm heq))
        haged.exists_later

/-- **Every turn** keeps the roll. -/
theorem passes (kept : roll.Kept) (h : roll.Passes later) : later.Kept := by
  cases h with
  | idle => exact kept
  | refused words hheld => exact kept.refused words
  | launched words child hheld => exact kept.launched hheld words child
  | released hidle => exact kept.released hidle
  | terminated number child hcurrent hchild hended => exact kept.terminated hcurrent hchild
  | aged children haged => exact kept.aged haged
  | reaped number children hleft haged => exact kept.reaped hleft haged

/-- While the token is held nothing is launched, and a child that is terminated runs and was not
terminated before. -/
theorem deeds_passes (kept : roll.Kept) (h : roll.Passes later) :
    ∃ done, later.deeds = roll.deeds ++ done ∧
      (roll.held = true → ∀ deed ∈ done, deed.event.isLaunch = false) ∧
      ∀ number pid, ⟨number, .terminated pid⟩ ∈ done → roll.IsLoose number := by
  have hquiet (held : Bool) : held = true → ∀ deed ∈ ([] : List Deed), deed.event.isLaunch = false :=
    fun _ _ hdeed => by cases hdeed
  cases h with
  | idle | released | aged => exact ⟨[], by simp [releasing], hquiet _, by simp⟩
  | refused words hheld | launched words child hheld =>
    refine ⟨[⟨roll.children.size, .launched words⟩], rfl, fun h => ?_, by simp⟩
    rw [hheld] at h
    cases h
  | terminated number child hcurrent hchild hended =>
    refine ⟨[⟨number, .terminated child.pid⟩], rfl, by simp [Event.isLaunch], fun other pid h => ?_⟩
    obtain ⟨rfl, -⟩ : other = number ∧ _ := by simpa using h
    exact ⟨child, hchild, hended, by simp [kept.spared_current other hcurrent]⟩
  | reaped number children hleft haged =>
    refine ⟨_, rfl, fun _ deed hdeed => ?_, fun other pid hdeed => ?_⟩
    · obtain ⟨event, hevent, rfl⟩ := List.mem_map.mp hdeed
      exact isLaunch_of_mem_reaping hevent
    · obtain ⟨event, hevent, heq⟩ := List.mem_map.mp hdeed
      obtain ⟨-, rfl⟩ := Deed.mk.inj heq
      exact absurd hevent not_mem_reaping

end Kept

end Roll

/-! ## Runs keep the roll -/

theorem kept_fresh (name program : String) : (roll (fresh name program)).Kept where
  held_of_loose number h := by
    obtain ⟨child, hchild, -⟩ := h
    simp [roll, fresh] at hchild
  spared_current number h := by cases h
  spared_unborn _ _ := rfl
  nodup_left := List.nodup_nil
  fates _ := .spared rfl List.not_mem_nil

/-- **Every run** keeps the roll. -/
theorem kept_after (awake : Awake LockHost) (kept : (roll awake).Kept) (turns : List Turn) :
    (roll (after awake turns)).Kept := by
  induction turns using List.reverseRecOn with
  | nil => exact kept
  | append_singleton turns turn ih =>
    rw [after, List.foldl_append]
    exact ih.passes (passes _ turn)

/-- A block with the token is entered and left, whatever happens in it. -/
theorem state_hold {α : Type} (awake : Awake LockHost) (circumstances : Circumstances)
    (block : Bool → Act (Awake LockHost) α) :
    (amid circumstances (hold inhibitor block) awake).state =
      match (amid circumstances (enter inhibitor) awake).outcome with
      | .ok held => after (block held (after awake [.enter circumstances])).state [.leave]
      | .error _ => after awake [.enter circumstances] := by
  have hentered : after awake [.enter circumstances] =
      (enter inhibitor { awake with outside := circumstances.host awake.outside }).state :=
    Act.state_discard ..
  rw [run_amid, run_amid, hentered, hold, Act.state_bind]
  cases (enter inhibitor { awake with outside := circumstances.host awake.outside }).outcome with
  | error failure => rfl
  | ok held => exact Act.state_always ..

/-- **No child is leaked or doubled**, however the token is taken, given back and held for blocks,
whatever fails, and whenever children end and reapers come. After every run at most one child runs
that was not terminated, and none while the token is not held. A child is terminated at most once,
and only while it runs; nothing is launched while the token is held. A child that was terminated is
left to a reaper, unless terminating it failed; the reaper waits for it, and exactly if this wait
times out it kills the child and waits again. A block with the token is entered and left, whatever
happens in it. -/
theorem children_kept (name program : String) (turns : List Turn) :
    let awake := after (fresh name program) turns
    (∀ number other, (roll awake).IsLoose number → (roll awake).IsLoose other → number = other) ∧
    (awake.token.held = false → ∀ number, ¬ (roll awake).IsLoose number) ∧
    (∀ number, (roll awake).Fates number) ∧
    (∀ turn : Turn, ∃ done,
      (roll (turn.act awake).state).deeds = (roll awake).deeds ++ done ∧
      (awake.token.held = true → ∀ deed ∈ done, deed.event.isLaunch = false) ∧
      ∀ number pid, ⟨number, .terminated pid⟩ ∈ done → (roll awake).IsLoose number) ∧
    (∀ number child, number ∈ awake.outside.left → awake.outside.children[number]? = some child →
      (roll ((Turn.reap number).act awake).state).fate number =
        .terminated child.pid :: reaping child) ∧
    ∀ circumstances (block : Bool → Act (Awake LockHost) Unit),
      (amid circumstances (hold inhibitor block) awake).state =
        match (amid circumstances (enter inhibitor) awake).outcome with
        | .ok held => after (block held (after awake [.enter circumstances])).state [.leave]
        | .error _ => after awake [.enter circumstances] := by
  intro awake
  have kept : (roll awake).Kept := kept_after _ (kept_fresh name program) turns
  refine ⟨fun number other hloose hother => ?_, fun hheld number hloose => ?_, kept.fates,
    fun turn => kept.deeds_passes (passes awake turn), fun number child hleft hchild => ?_,
    fun circumstances block => state_hold awake circumstances block⟩
  · obtain ⟨-, hcurrent⟩ := kept.held_of_loose number hloose
    obtain ⟨-, hlast⟩ := kept.held_of_loose other hother
    exact Option.some.inj (hcurrent.symm.trans hlast)
  · have hcontra := (kept.held_of_loose number hloose).1.symm.trans hheld
    cases hcontra
  · obtain ⟨children, -, hroll⟩ := roll_reap awake hleft
    obtain ⟨last, hlast, -, hfate⟩ := kept.fate_of_mem_left hleft
    obtain rfl := Option.some.inj (hchild.symm.trans hlast)
    rw [hroll, Roll.Kept.fate_reapingOf hchild, hfate, if_pos rfl, List.singleton_append]

/-- A child that does not end when it is terminated can be launched. -/
def stubborn : Circumstances where
  found := some "/usr/bin/systemd-inhibit"
  launchFailure := none
  next := { slowWaits := 1 }

/-- Of two blocks that overlap, the first to be left lets the child go. -/
example : fate (after (fresh "tcmg:server" "systemd-inhibit")
    [.enter stubborn, .enter stubborn, .leave, .reap 0, .leave]).outside.deeds 0 =
      [.terminated 4242, .waited (some patience), .killed 4242, .waited none] := rfl

end Warden.KeepAwake.ChildLock
