import Mathlib.Tactic.Common
import Warden.Command

/-!
# What a supervisor leaves alone

A supervisor reaches its outside world through the server and the inhibitor only, and signs what it
logs. So what these leave alone in the world is left alone by starts and stops too, and no start or
stop says by itself that the host failed.

## Main definitions

* `Act.Discreet`: an act that keeps a property of the state and logs only items of some kind
* `Surroundings.Discreet`: an outside world all of whose acts are discreet
* `Supervisor.Minds`: an act of a supervisor that is discreet about its outside world
* `isHostError`: an item of the log is an error of the host
* `Act.IsQuiet`, `Surroundings.IsQuiet`: no such item is logged

## Main results

* `Act.Discreet.bind`, `Act.Discreet.recover`, `Act.Discreet.always`: how discreet acts are put
  together
* `Supervisor.minds_start`, `Supervisor.minds_stop`: starts and stops are as discreet as the outside
  world
-/

namespace Warden

/-! ## Discreet acts -/

namespace Act

variable {σ τ α β : Type}

theorem log_bind (act : Act σ α) (next : α → Act σ β) (s : σ) :
    ((act >>= next) s).log = (act s).log ++
      match (act s).outcome with
      | .ok answer => (next answer (act s).state).log
      | .error _ => [] := by
  rw [run_bind]
  rcases act s with ⟨_ | _, _, _⟩
  · exact (List.append_nil _).symm
  · rfl

/-- An act that keeps a property of the state, whether it fails or not, and logs only items of some
kind. -/
structure Discreet (P : σ → Prop) (p : Log.Item → Prop) (act : Act σ α) : Prop where
  state : ∀ s, P s → P (act s).state
  log : ∀ s, P s → ∀ item ∈ (act s).log, p item

namespace Discreet

variable {P : σ → Prop} {p : Log.Item → Prop} {act : Act σ α}

theorem pure (answer : α) : Discreet P p (Pure.pure answer : Act σ α) :=
  ⟨fun _ hs => hs, fun _ _ => List.forall_mem_nil _⟩

theorem fail (failure : Failure) : Discreet P p (Act.fail failure : Act σ α) :=
  ⟨fun _ hs => hs, fun _ _ => List.forall_mem_nil _⟩

theorem view (f : σ → α) : Discreet P p (Act.view f) :=
  ⟨fun _ hs => hs, fun _ _ => List.forall_mem_nil _⟩

theorem ofExcept (answer : Except Failure α) : Discreet P p (Act.ofExcept answer : Act σ α) :=
  ⟨fun _ hs => hs, fun _ _ => List.forall_mem_nil _⟩

theorem modify {f : σ → σ} (hf : ∀ s, P s → P (f s)) : Discreet P p (Act.modify f) :=
  ⟨hf, fun _ _ => List.forall_mem_nil _⟩

theorem note {level : Log.Level} {message : String} (h : p (.record ⟨level, message⟩)) :
    Discreet P p (Act.note level message : Act σ Unit) :=
  ⟨fun _ hs => hs, fun _ _ => List.forall_mem_singleton.mpr h⟩

theorem noteNumber {level : Log.Level} {number : Int} {message : String → String}
    (h : ∀ digits, p (.record ⟨level, message digits⟩)) :
    Discreet P p (Act.noteNumber level number message : Act σ Unit) := by
  unfold Act.noteNumber
  cases Numeric.Literal.write number with
  | ok digits => exact note (h digits)
  | error fault => exact pure ()

theorem raise? (failure : Option Failure) : Discreet P p (Act.raise? failure : Act σ Unit) := by
  cases failure with
  | none => exact pure ()
  | some failure => exact fail failure

theorem attempt (hact : Discreet P p act) : Discreet P p act.attempt :=
  ⟨hact.state, hact.log⟩

/-- **One act after the other.** -/
theorem bind {next : α → Act σ β} (hact : Discreet P p act)
    (hnext : ∀ answer, Discreet P p (next answer)) : Discreet P p (act >>= next) where
  state s hs := by
    rw [state_bind]
    cases (act s).outcome with
    | ok answer => exact (hnext answer).state _ (hact.state s hs)
    | error => exact hact.state s hs
  log s hs := by
    rw [log_bind, List.forall_mem_append]
    refine ⟨hact.log s hs, ?_⟩
    cases (act s).outcome with
    | ok answer => exact (hnext answer).log _ (hact.state s hs)
    | error => exact List.forall_mem_nil _

theorem map (f : α → β) (hact : Discreet P p act) : Discreet P p (f <$> act) :=
  hact.bind fun answer => pure (f answer)

theorem ite {c : Prop} [Decidable c] {other : Act σ α} (hact : Discreet P p act)
    (hother : Discreet P p other) : Discreet P p (if c then act else other) := by
  split_ifs
  · exact hact
  · exact hother

theorem forM {act : α → Act σ Unit} (hact : ∀ a, Discreet P p (act a)) (items : List α) :
    Discreet P p (items.forM act) := by
  induction items with
  | nil => exact pure ()
  | cons item items ih => exact (hact item).bind fun _ => ih

theorem recover {isHandled : Failure → Bool} {handle : Failure → Act σ α}
    (hact : Discreet P p act) (hhandle : ∀ failure, Discreet P p (handle failure)) :
    Discreet P p (Act.recover isHandled act handle) := by
  refine hact.attempt.bind fun outcome => ?_
  cases outcome with
  | ok answer => exact pure answer
  | error failure => exact (hhandle failure).ite (fail failure)

theorem always {last : Act σ Unit} (hact : Discreet P p act) (hlast : Discreet P p last) :
    Discreet P p (act.always last) :=
  hact.attempt.bind fun outcome => hlast.bind fun _ => ofExcept outcome

/-- An act on a part of the state that does not matter to the property. -/
theorem beside {part : σ → τ} {put : σ → τ → σ} {act : Act τ α}
    (hput : ∀ s t, P s → P (put s t)) (hact : Discreet (fun _ => True) p act) :
    Discreet P p (act.within part put) where
  state s hs := hput s _ hs
  log _ _ := hact.log _ trivial

/-- Every act is discreet about nothing. -/
theorem trivial (act : Act σ α) : Discreet (fun _ => True) (fun _ => True) act :=
  ⟨fun _ _ => True.intro, fun _ _ _ _ => True.intro⟩

end Discreet

end Act

open Warden.Act (Discreet)

variable {σ ε α : Type}

/-- What a supervisor reaches of the outside world keeps a property and logs only items of some
kind. -/
structure Surroundings.Discreet (Q : ε → Prop) (p : Log.Item → Prop) (around : Surroundings ε) :
    Prop where
  start : ∀ directory level, Act.Discreet Q p (around.service.start directory level)
  stop : Act.Discreet Q p around.service.stop
  isRunning : Act.Discreet Q p around.service.isRunning
  acquire : ∀ name, Act.Discreet Q p (around.inhibitor.acquire name)
  release : Act.Discreet Q p around.inhibitor.release

theorem Surroundings.Discreet.trivial (around : Surroundings ε) :
    around.Discreet (fun _ => True) fun _ => True where
  start _ _ := .trivial _
  stop := .trivial _
  isRunning := .trivial _
  acquire _ := .trivial _
  release := .trivial _

/-- An outside world that is a part of a larger one leaves the rest of that alone. -/
theorem Surroundings.Discreet.within {p : Log.Item → Prop} {P : σ → Prop} {part : σ → ε}
    {put : σ → ε → σ} {around : Surroundings ε} (haround : around.Discreet (fun _ => True) p)
    (hput : ∀ s t, P s → P (put s t)) : (around.within part put).Discreet P p where
  start directory level := (haround.start directory level).beside hput
  stop := haround.stop.beside hput
  isRunning := haround.isRunning.beside hput
  acquire name := (haround.acquire name).beside hput
  release := haround.release.beside hput

/-- An item of the log is an error of the host. -/
def isHostError : Log.Item → Bool
  | .record record => record.level == .error && "Host: ".toList.isPrefixOf record.message.toList
  | _ => false

/-- An act that logs no error in the name of the host. -/
def Act.IsQuiet (act : Act σ α) : Prop :=
  Act.Discreet (fun _ => True) (fun item => isHostError item = false) act

/-- An outside world that logs no error in the name of the host. -/
def Surroundings.IsQuiet (around : Surroundings ε) : Prop :=
  around.Discreet (fun _ => True) fun item => isHostError item = false

namespace Supervisor

variable {Q : ε → Prop} {p : Log.Item → Prop} {around : Surroundings ε}

/-! ## Starts and stops -/

/-- What a supervisor does keeps a property of the outside world, and logs only items of some kind.
-/
def Minds (Q : ε → Prop) (p : Log.Item → Prop) (act : Act (Supervised ε) α) : Prop :=
  Discreet (fun supervised => Q supervised.awake.outside) p act

theorem minds_outside {act : Act ε α} (hact : Discreet Q p act) : Minds Q p (outside act) :=
  ⟨fun _ hs => hact.state _ hs, fun _ hs => hact.log _ hs⟩

theorem minds_onToken {act : Act (KeepAwake.Awake ε) α}
    (hact : Discreet (fun awake => Q awake.outside) p act) : Minds Q p (onToken act) :=
  ⟨fun _ hs => hact.state _ hs, fun _ hs => hact.log _ hs⟩

theorem minds_modify {f : Supervised ε → Supervised ε} (hf : ∀ s, (f s).awake = s.awake) :
    Minds Q p (Act.modify f) :=
  .modify fun s hs => by rwa [hf]

section Commands

variable (haround : around.Discreet Q p) (hp : ∀ item, isHostError item = false → p item)

include haround hp

theorem discreet_release :
    Discreet (fun awake : KeepAwake.Awake ε => Q awake.outside) p
      (KeepAwake.release around.inhibitor) := by
  have hmark : Discreet (fun awake : KeepAwake.Awake ε => Q awake.outside) p
      (KeepAwake.mark false) := .modify fun _ hs => hs
  have hlet : Discreet (fun awake : KeepAwake.Awake ε => Q awake.outside) p
      (KeepAwake.outside around.inhibitor.release) :=
    ⟨fun _ hs => haround.release.state _ hs, fun _ hs => haround.release.log _ hs⟩
  refine (Discreet.view _).bind fun token => .ite (hmark.bind fun _ => ?_) (.pure _)
  exact (hlet.recover fun failure => .note (hp _ rfl)).bind fun _ => .note (hp _ rfl)

theorem discreet_enter :
    Discreet (fun awake : KeepAwake.Awake ε => Q awake.outside) p
      (KeepAwake.enter around.inhibitor) := by
  have hmark : Discreet (fun awake : KeepAwake.Awake ε => Q awake.outside) p
      (KeepAwake.mark true) := .modify fun _ hs => hs
  have hask (name : String) : Discreet (fun awake : KeepAwake.Awake ε => Q awake.outside) p
      (KeepAwake.outside (around.inhibitor.acquire name)) :=
    ⟨fun _ hs => (haround.acquire name).state _ hs, fun _ hs => (haround.acquire name).log _ hs⟩
  have hacquire : Discreet (fun awake : KeepAwake.Awake ε => Q awake.outside) p
      (KeepAwake.acquire around.inhibitor) := by
    refine (Discreet.view _).bind fun token => .ite (.pure _) ((hask _).bind fun _ => ?_)
    exact hmark.bind fun _ => .note (hp _ rfl)
  refine (hacquire.recover fun failure => ?_).bind fun _ => .view _
  exact (Discreet.view _).bind fun token => .note (hp _ rfl)

theorem minds_isRunning : Minds Q p (isRunning around) := by
  refine (minds_outside haround.isRunning).recover fun failure => ?_
  refine (Discreet.note (hp _ ?_)).bind fun _ => .pure _
  simp [isHostError, toString, List.isPrefixOf]

theorem minds_closeBlocks : Minds Q p (closeBlocks around) := by
  refine Discreet.bind (.view _) fun blocks => Discreet.bind (minds_modify fun _ => rfl) fun _ => ?_
  induction blocks with
  | zero => exact .pure _
  | succ blocks ih =>
    have honce := minds_onToken (discreet_release haround hp)
    exact honce.attempt.bind fun outcome => ih.bind fun _ => .ofExcept _

theorem minds_openBlock : Minds Q p (openBlock around) := by
  have henter := minds_onToken (discreet_enter haround hp)
  exact (henter.map fun _ => ()).bind fun _ => minds_modify fun _ => rfl

theorem minds_launch (directory : Option String) (level : Int) :
    Minds Q p (launch around directory level) := by
  have hclose := minds_closeBlocks haround hp
  have hmark : Minds Q p (do
      let startedAt ← now around
      Act.modify fun supervised => { supervised with startedAt := some startedAt }) :=
    Discreet.bind (.view _) fun startedAt => minds_modify fun _ => rfl
  refine Discreet.bind ((minds_outside (haround.start directory level)).recover fun failure => ?_)
    fun code => .ite ?_ hmark
  · exact hclose.bind fun _ => .fail failure
  · refine hclose.bind fun _ => Discreet.bind (.noteNumber fun digits => hp _ ?_) fun _ =>
      Discreet.bind (.fail _) fun _ => hmark
    simp [isHostError, toString, List.isPrefixOf]

/-- **A start** is as discreet as the outside world. -/
theorem minds_start (directory : Option String) (level : Int) :
    Minds Q p (start around directory level) := by
  have hstart : Minds Q p (do
      if ← isRunning around then
        Act.note .info "ProcessSupervisor: server already running, start skipped"
      else
        openBlock around
        let place := Text.orNone directory
        Act.note .info
          s!"ProcessSupervisor: starting server (config_dir={place} debug={level})"
        launch around directory level) := by
    refine (minds_isRunning haround hp).bind fun running => .ite (.note (hp _ rfl)) ?_
    refine (minds_openBlock haround hp).bind fun _ => Discreet.bind (.note (hp _ rfl)) fun _ => ?_
    exact minds_launch haround hp directory level
  exact .ite hstart (Discreet.bind (.fail _) fun _ => hstart)

/-- **A stop** is as discreet as the outside world. -/
theorem minds_stop : Minds Q p (stop around) := by
  have hhalt : Minds Q p (halt around) := by
    refine (minds_isRunning haround hp).bind fun running => .ite ?_ (.note (hp _ rfl))
    exact Discreet.bind (.note (hp _ rfl)) fun _ => minds_outside haround.stop
  exact hhalt.always (Discreet.bind (minds_modify fun _ => rfl) fun _ =>
    minds_closeBlocks haround hp)

end Commands

end Supervisor

end Warden
