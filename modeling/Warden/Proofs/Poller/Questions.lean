import Warden.Proofs.Poller.Diary
import Warden.Proofs.Supervisor.Commands
import Warden.Proofs.Uptime.ClockFace

/-!
# Questions of the poller

At its ticks a poller asks the supervisor and the network. As long as the outside world does not fail
with a cancelled wait, no question does either; most of them do not fail at all. No question enters
anything in the diary, or changes when the server was started.

## Main definitions

* `AnswersStatus`: a server that fails in no question about its status with a cancelled wait
* `IsOrdinary`: an outside world that fails in no question with a cancelled wait
* `Silent`: an act of the supervisor that enters nothing in the diary
* `Handle.IsProper`: an answer about the status of a server

## Main results

* `silent_snapshot`, `silent_uptime`, `silent_findBoth`: the questions are silent
* `yields_snapshot`, `yields_uptime`: the answers about the status
-/

namespace Warden

/-- A port is one that the server answers somewhere, and above zero; there is none unless the server
runs. -/
structure Handle.IsProper {ε : Type} (around : Surroundings ε) (handle : Handle) : Prop where
  port_answered : ∀ port, handle.webifPort = some port →
    ∃ world, (around.service.webifPort world).outcome = .ok port
  port_pos : ∀ port, handle.webifPort = some port → 0 < port
  port_running : handle.webifPort ≠ none → handle.running = true

namespace Poller

open Warden.Numeric (Reading)
open Warden.Act (Keeps Yields Ordinary)

variable {ω ε α : Type}

/-- The server fails in no question about its status with a cancelled wait. -/
structure AnswersStatus (around : Surroundings ε) : Prop where
  isRunning : ∀ world f, (around.service.isRunning world).outcome = .error f → Ordinary f
  webifPort : ∀ world f, (around.service.webifPort world).outcome = .error f → Ordinary f

/-- The outside world fails in no question with a cancelled wait. -/
structure IsOrdinary (around : Surroundings ε) : Prop extends AnswersStatus around where
  logLines : ∀ wanted count world f,
    (around.service.logLines wanted count world).outcome = .error f → Ordinary f
  interfaces : ∀ world f, (around.interfaces world).outcome = .error f → Ordinary f

/-- The server was started at a given time, and some entries are in the diary. -/
def Unstirred (startedAt : Option Reading) (entries : List (Entry ω))
    (supervised : Supervised (Diary ω ε)) : Prop :=
  supervised.startedAt = startedAt ∧ supervised.awake.outside.entries = entries

/-- An act of the supervisor that enters nothing in the diary, and fails only in some ways. -/
def Silent (E : Failure → Prop) (act : Act (Supervised (Diary ω ε)) α) : Prop :=
  ∀ startedAt entries, Keeps (Unstirred startedAt entries) E act

variable {E : Failure → Prop}

/-- An act on the outside world beside the diary enters nothing in the diary. -/
theorem keeps_entries {act : Act ε α}
    (hact : ∀ world f, (act world).outcome = .error f → E f) (entries : List (Entry ω)) :
    Keeps (fun diary : Diary ω ε => diary.entries = entries) E
      (act.within Diary.outside fun diary outside => { diary with outside }) :=
  .within (fun _ _ hs => hs) hact

theorem silent_outside {act : Act (Diary ω ε) α}
    (hact : ∀ entries, Keeps (fun diary => diary.entries = entries) E act) :
    Silent E (Supervisor.outside act) := by
  intro startedAt entries
  refine ⟨fun s hs => ⟨hs.1, (hact entries).state _ hs.2⟩, fun s f hs hf => ?_⟩
  exact (hact entries).failure _ f hs.2 hf

/-- The outside world changes by itself. -/
theorem silent_modify (f : ε → ε) : Silent E (Supervisor.outside (Act.modify
    fun diary : Diary ω ε => { diary with outside := f diary.outside })) :=
  silent_outside fun _ => .modify fun _ hs => hs

section Status

variable {around : Surroundings ε} (haround : AnswersStatus around)
include haround

/-- A server that cannot be asked counts as not running. -/
theorem silent_isRunning : Silent (ω := ω) E (Supervisor.isRunning around.noted) := by
  intro startedAt entries
  refine (silent_outside (keeps_entries haround.isRunning) startedAt entries).recover
    (fun f => ?_) fun f hf hother => ?_
  · exact (Keeps.note ..).bind fun _ => .pure _
  · simp_all [Ordinary, Act.isOrdinary]

theorem silent_askPort : Silent (ω := ω) E (Supervisor.askPort around.noted) := by
  intro startedAt entries
  refine ((silent_outside (keeps_entries haround.webifPort) startedAt entries).map some).recover
    (fun f => ?_) fun f hf hother => ?_
  · exact (Keeps.note ..).bind fun _ => .pure _
  · simp_all [Ordinary, Act.isOrdinary]

theorem silent_snapshot : Silent (ω := ω) E (Supervisor.snapshot around.noted) := by
  intro startedAt entries
  refine (silent_isRunning haround startedAt entries).bind fun running => .ite ?_ (.pure _)
  refine Keeps.bind ?_ fun port => (Keeps.view _).bind fun _ => .pure _
  refine (silent_isRunning haround startedAt entries).bind fun running => .ite ?_ (.pure _)
  exact (silent_askPort haround startedAt entries).bind fun _ => .pure _

theorem silent_uptime : Silent (ω := ω) Ordinary (Supervisor.uptime around.noted) := by
  intro startedAt entries
  refine (Keeps.view _).bind fun startedAt => ?_
  cases startedAt with
  | none => exact .pure _
  | some startedAt =>
    refine (silent_isRunning haround _ entries).bind fun running => .ite ?_ (.pure _)
    refine (Keeps.view _).bind fun now => Keeps.bind (.ofExcept fun f hf => ?_) fun _ => .pure _
    -- A clock past the largest number is an ordinary failure.
    unfold Supervisor.elapsed at hf
    split at hf <;> cases hf
    rfl

/-- The answer about the port, if there is one, is that of the server. -/
theorem yields_askPort (startedAt : Option Reading) (entries : List (Entry ω)) :
    Yields (Unstirred startedAt entries) (Supervisor.askPort around.noted) fun answer s =>
      Unstirred startedAt entries s ∧ ∀ port, answer = some port →
        ∃ world, (around.service.webifPort world).outcome = .ok port := by
  intro s hs
  obtain ⟨answer, houtcome, hafter⟩ := (silent_askPort haround startedAt entries).yields s hs
  refine ⟨answer, houtcome, hafter, ?_⟩
  rintro port rfl
  refine ⟨s.awake.outside.outside, ?_⟩
  have hasked : (Supervisor.outside around.noted.service.webifPort s).outcome =
      (around.service.webifPort s.awake.outside.outside).outcome := rfl
  rw [Supervisor.askPort, Act.outcome_recover, Act.outcome_map, hasked] at houtcome
  cases hport : (around.service.webifPort s.awake.outside.outside).outcome with
  | ok number =>
    rw [hport] at houtcome
    exact congrArg Except.ok (Option.some.inj (Except.ok.inj houtcome))
  | error f =>
    -- A failure is no answer.
    rw [hport] at houtcome
    by_cases hordinary : Act.isOrdinary f = true <;> simp [Except.map, hordinary] at houtcome

/-- The answer about the port, if the server runs. -/
theorem yields_webifPort (startedAt : Option Reading) (entries : List (Entry ω)) :
    Yields (Unstirred startedAt entries) (Supervisor.webifPort around.noted) fun answer s =>
      Unstirred startedAt entries s ∧ ∀ port, answer = some port →
        (∃ world, (around.service.webifPort world).outcome = .ok port) ∧ 0 < port := by
  refine (silent_isRunning haround startedAt entries).yields.bind fun running =>
    .ite (fun _ => ?_) fun _ => ?_
  · refine (yields_askPort haround startedAt entries).bind fun answer =>
      .pure fun s hs => ⟨hs.1, ?_⟩
    intro port hport
    obtain ⟨hanswer, hpos⟩ := Option.filter_eq_some_iff.mp hport
    exact ⟨hs.2 port hanswer, by simpa using hpos⟩
  · exact .pure fun s hs => ⟨hs, nofun⟩

/-- **The answer about the status** is proper, whatever the server answers or fails with each time. -/
theorem yields_snapshot (startedAt : Option Reading) (entries : List (Entry ω)) :
    Yields (Unstirred startedAt entries) (Supervisor.snapshot around.noted) fun handle s =>
      Unstirred startedAt entries s ∧ handle.IsProper around := by
  refine (silent_isRunning haround startedAt entries).yields.bind fun running =>
    .ite (fun _ => ?_) fun _ => ?_
  · refine (yields_webifPort haround startedAt entries).bind fun port => ?_
    refine Keeps.yields (.view _) |>.bind fun startedAt => .pure fun s ⟨hs, hport⟩ => ⟨hs, ?_⟩
    exact ⟨fun port h => (hport port h).1, fun port h => (hport port h).2, fun _ => rfl⟩
  · exact .pure fun s hs => ⟨hs, nofun, nofun, fun hport => absurd rfl hport⟩

/-- **The answer about the uptime** can be told if every time since the start of the server can. -/
theorem yields_uptime {startedAt : Option Reading} (entries : List (Entry ω))
    (hclock : ∀ world moment, startedAt = some moment → ∃ reading text,
      Supervisor.elapsed (around.clock world) moment = .ok reading ∧
        Uptime.text (some reading) = .ok text) :
    Yields (Unstirred startedAt entries) (Supervisor.uptime around.noted) fun answer s =>
      Unstirred startedAt entries s ∧ ∃ text, Uptime.text answer = .ok text := by
  refine Yields.bind (Q := fun found s => Unstirred startedAt entries s ∧ found = startedAt)
    (.view fun s hs => ⟨hs, hs.1⟩) fun found => ?_
  cases found with
  | none => exact .pure fun s hs => ⟨hs.1, "", rfl⟩
  | some moment =>
    have hasked : Yields (fun s => Unstirred startedAt entries s ∧ some moment = startedAt)
        (Supervisor.isRunning around.noted)
        fun _ s => Unstirred startedAt entries s ∧ some moment = startedAt := by
      rintro s ⟨hs, hmoment⟩
      obtain ⟨running, houtcome, hafter⟩ := (silent_isRunning haround startedAt entries).yields s hs
      exact ⟨running, houtcome, hafter, hmoment⟩
    refine hasked.bind fun running => .ite (fun _ => ?_) fun _ => .pure fun s hs => ⟨hs.1, "", rfl⟩
    rintro s ⟨hs, hmoment⟩
    obtain ⟨reading, text, helapsed, htext⟩ := hclock s.awake.outside.outside moment hmoment.symm
    have hnow : Supervisor.elapsed (around.noted.clock s.awake.outside) moment = .ok reading := helapsed
    refine ⟨some reading, ?_, ?_, text, htext⟩
    · simp only [Act.outcome_bind, Supervisor.now, Act.run_view, Act.run_ofExcept, hnow]
      rfl
    · simpa only [Act.state_bind, Supervisor.now, Act.run_view, Act.run_ofExcept, hnow]

end Status

theorem silent_findBoth {around : Surroundings ε} (haround : IsOrdinary around)
    (naming : Network.Naming) : Silent (ω := ω) Ordinary
      (Supervisor.outside (Network.findBoth naming around.noted.interfaces)) := by
  refine silent_outside fun entries => ?_
  have hlisted : Keeps (fun diary : Diary ω ε => diary.entries = entries) Ordinary
      (Network.listed around.noted.interfaces) := by
    refine (keeps_entries haround.interfaces entries).recover (fun f => ?_) fun f hf _ => hf
    exact (Keeps.note ..).bind fun _ => .pure _
  refine Keeps.bind (hlisted.bind fun _ => .pure _) fun primary => ?_
  exact Keeps.bind (hlisted.bind fun _ => .pure _) fun accessPoint => .pure _

/-- A place that cannot be written is an ordinary failure. -/
theorem ordinary_place? {role : Role} {endpoints : List Endpoint} {port : Option Int} {f : Failure}
    (hf : role.place? endpoints port = .error f) : Ordinary f := by
  unfold Role.place? at hf
  split at hf
  · next endpoint port _ =>
    unfold Endpoint.url at hf
    cases hwritten : Numeric.Literal.write port with
    | ok digits =>
      rw [hwritten] at hf
      cases hf
    | error fault =>
      rw [hwritten] at hf
      cases hf
      rfl
  · cases hf

/-- A time that cannot be told is an ordinary failure. -/
theorem ordinary_text {reading : Option Reading} {f : Failure}
    (hf : Uptime.text reading = .error f) : Ordinary f := by
  cases reading with
  | none => cases hf
  | some reading =>
    cases hseconds : Uptime.wholeSeconds reading with
    | error g =>
      have hg : g = f := by simpa [Uptime.text, hseconds, bind, Except.bind] using hf
      subst hg
      unfold Uptime.wholeSeconds at hseconds
      split at hseconds <;> cases hseconds <;> rfl
    | ok seconds =>
      have hface : Uptime.clockFace seconds.toNat = .error f := by
        simpa [Uptime.text, hseconds, bind, Except.bind] using hf
      rw [Uptime.eq_unwritable_of_clockFace hface]
      rfl

end Poller

end Warden
