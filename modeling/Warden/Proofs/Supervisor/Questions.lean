import Warden.Proofs.Numeric.Rounding
import Warden.Proofs.Poller.Questions

/-!
# Questions are answered and change nothing

A supervisor is asked whether the server runs, in which state it is, which port its web interface has,
how long it has been up, and for all of this at one time. Each question is up to three questions to
the server, which may answer each of them differently or fail. All the same there is an answer, it
does not contradict itself, and the supervisor is left as it was before another outside world.

Only the time since the start may not be there: an integer past the largest floating-point number
cannot be told apart from one of these.

## Main definitions

* `Reading.Apart`: two readings that cannot be subtracted
* `Reading.IsNonneg`: a reading that is not below zero
* `Answers`: a question that is answered and changes the outside world alone
* `IsOverdue`: there is no time since the start of the server
* `Handle.Agrees`: what is known about a server, beside its start

## Main results

* `Reading.sub?_eq_none_iff`: the readings that cannot be subtracted
* `answers_webifPort`, `answers_snapshot`, `answers_uptime`: what each question comes to
* `questions_answered`: all questions together
* `uptime_overdue`: a clock that has no time since the start of the server
-/

namespace Warden

/-! ## The time between two readings -/

namespace Numeric.Reading

/-- One reading is a floating-point number, and the other one an integer past the largest of these. -/
inductive Apart : Reading → Reading → Prop where
  | later {n : Int} (d : Double) (h : firstPastReals ≤ n.natAbs) : Apart (whole n) (real d)
  | earlier {n : Int} (d : Double) (h : firstPastReals ≤ n.natAbs) : Apart (real d) (whole n)

/-- **Two readings have a time between them** unless they are apart. -/
theorem sub?_eq_none_iff {a b : Reading} : a.sub? b = none ↔ a.Apart b := by
  cases a with
  | whole m =>
    cases b with
    | whole n => exact ⟨nofun, nofun⟩
    | real d =>
      have hsub : (whole m).sub? (real d) =
          (Double.ofInt? m).map fun number => real (number.sub d) := by
        cases h : Double.ofInt? m <;> simp [sub?, toDouble?, h]
      rw [hsub, Option.map_eq_none_iff, Double.ofInt?_eq_none_iff]
      exact ⟨.later d, fun | .later _ h => h⟩
  | real d =>
    cases b with
    | whole n =>
      have hsub : (real d).sub? (whole n) =
          (Double.ofInt? n).map fun number => real (d.sub number) := by
        cases h : Double.ofInt? n <;> simp [sub?, toDouble?, h]
      rw [hsub, Option.map_eq_none_iff, Double.ofInt?_eq_none_iff]
      exact ⟨.earlier d, fun | .earlier _ h => h⟩
    | real e => exact ⟨nofun, nofun⟩

/-- The reading is an integer. -/
def isWhole : Reading → Bool
  | whole _ => true
  | real _ => false

/-- Readings of one kind have a time between them. -/
theorem Apart.isWhole_ne {a b : Reading} (h : a.Apart b) : a.isWhole ≠ b.isWhole := by
  cases h <;> exact nofun

/-- A reading is a number that is not below zero. -/
def IsNonneg : Reading → Prop
  | whole n => 0 ≤ n
  | real (.finite negative units) => negative = false ∨ units = 0
  | real (.infinite negative) => negative = false
  | real .undefined => False

theorem isNonneg_orZero (reading : Reading) : reading.orZero.IsNonneg := by
  rw [orZero]
  split_ifs with hpos
  · cases reading with
    | whole n => exact (of_decide_eq_true hpos).le
    | real d =>
      cases d with
      | finite negative units => cases negative <;> simp_all [isPositive, Double.isPositive, IsNonneg]
      | infinite negative => cases negative <;> simp_all [isPositive, Double.isPositive, IsNonneg]
      | undefined => cases hpos
  · exact .inl rfl

end Numeric.Reading

/-- What is known about a server does not contradict itself, or what the supervisor knows. -/
structure Handle.Agrees (handle : Handle) (startedAt : Option Numeric.Reading) : Prop where
  port_pos : ∀ port, handle.webifPort = some port → 0 < port
  stopped : handle.running = false → handle.webifPort = none ∧ handle.startedAt = none
  running : handle.running = true → handle.startedAt = startedAt

namespace Supervisor

open Warden.Numeric (Reading)
open Warden.Act (Keeps Yields Ordinary)
open Warden.Poller (AnswersStatus)

variable {ε α : Type} {s : Supervised ε}

/-- A supervisor that differs from another one in its outside world alone. -/
def IsFacing (s after : Supervised ε) : Prop :=
  ∃ world, after = s.facing world

theorem IsFacing.refl (s : Supervised ε) : IsFacing s s :=
  ⟨s.awake.outside, rfl⟩

/-- A question is answered, and changes the outside world of the supervisor alone. -/
def Answers (act : Act (Supervised ε) α) (s : Supervised ε) (Q : α → Prop) : Prop :=
  ∃ answer, (act s).outcome = .ok answer ∧ IsFacing s (act s).state ∧ Q answer

theorem answers_of_yields {act : Act (Supervised ε) α} {Q : α → Prop}
    (hact : Yields (IsFacing s) act fun answer after => IsFacing s after ∧ Q answer) :
    Answers act s Q :=
  hact s (.refl s)

theorem keeps_outside {E : Failure → Prop} {act : Act ε α}
    (hact : ∀ world f, (act world).outcome = .error f → E f) :
    Keeps (IsFacing s) E (outside act) where
  state := by
    rintro _ ⟨world, rfl⟩
    exact ⟨_, rfl⟩
  failure _ f _ hf := hact _ f hf

variable {around : Surroundings ε} (haround : AnswersStatus around)
include haround

/-! ## What the questions come to -/

theorem keeps_isRunning : Keeps (IsFacing s) (fun _ => False) (isRunning around) := by
  refine (keeps_outside haround.isRunning).recover (fun f => ?_) fun f hf hother => ?_
  · exact (Keeps.note ..).bind fun _ => .pure _
  · simp_all [Ordinary, Act.isOrdinary]

theorem keeps_askPort : Keeps (IsFacing s) (fun _ => False) (askPort around) := by
  refine ((keeps_outside haround.webifPort).map some).recover (fun f => ?_) fun f hf hother => ?_
  · exact (Keeps.note ..).bind fun _ => .pure _
  · simp_all [Ordinary, Act.isOrdinary]

/-- **The server runs** if it says so; a server that cannot be asked does not. -/
theorem answers_isRunning (s : Supervised ε) : Answers (isRunning around) s fun running =>
    running = true ↔ (around.service.isRunning s.awake.outside).outcome = .ok true := by
  obtain ⟨running, hrunning, hafter⟩ := (keeps_isRunning haround).yields s (.refl s)
  refine ⟨running, hrunning, hafter, ?_⟩
  rw [outcome_isRunning] at hrunning
  cases hasked : (around.service.isRunning s.awake.outside).outcome with
  | ok answer =>
    obtain rfl : answer = running := by simpa [hasked] using hrunning
    simp
  | error f =>
    have hordinary : f.isCancelled = false := haround.isRunning _ f hasked
    obtain rfl : false = running := by simpa [hasked, Act.isOrdinary, hordinary] using hrunning
    simp

theorem answers_state (s : Supervised ε) : Answers (state around) s fun word =>
    (isRunning around s).outcome.map stateWord = .ok word := by
  obtain ⟨running, hrunning, hafter⟩ := (keeps_isRunning haround).yields s (.refl s)
  have houtcome : (state around s).outcome = .ok (stateWord running) := by
    rw [state, Act.outcome_map, hrunning]
    rfl
  refine ⟨_, houtcome, ?_, by rw [hrunning]; rfl⟩
  rwa [state, Act.state_map]

theorem yields_webifPort : Yields (IsFacing s) (webifPort around) fun answer after =>
    IsFacing s after ∧ ∀ port, answer = some port → 0 < port := by
  refine (keeps_isRunning haround).yields.bind fun running => .ite (fun _ => ?_) fun _ => ?_
  · refine (keeps_askPort haround).yields.bind fun answer => .pure fun after hafter => ⟨hafter, ?_⟩
    intro port hport
    simpa using (Option.filter_eq_some_iff.mp hport).2
  · exact .pure fun after hafter => ⟨hafter, nofun⟩

/-- **All that is known at one time** agrees, although the server is asked up to three times. -/
theorem answers_snapshot (s : Supervised ε) :
    Answers (snapshot around) s fun handle => handle.Agrees s.startedAt := by
  refine answers_of_yields ?_
  refine (keeps_isRunning haround).yields.bind fun running => .ite (fun _ => ?_) fun _ => ?_
  · refine (yields_webifPort haround).bind fun port => ?_
    refine Yields.bind (Q := fun startedAt after => IsFacing s after ∧
        (∀ number, port = some number → 0 < number) ∧ startedAt = s.startedAt)
      (.view ?_) fun startedAt => .pure fun after hafter => ⟨hafter.1, ?_⟩
    · rintro _ ⟨⟨world, rfl⟩, hport⟩
      exact ⟨⟨world, rfl⟩, hport, rfl⟩
    · exact ⟨hafter.2.1, nofun, fun _ => hafter.2.2⟩
  · exact .pure fun after hafter => ⟨hafter, nofun, fun _ => ⟨rfl, rfl⟩, nofun⟩

omit haround

/-- The server runs, and the clock and the start of the server are readings that are apart. -/
def IsOverdue (around : Surroundings ε) (s : Supervised ε) : Prop :=
  (isRunning around s).outcome = .ok true ∧ ∃ startedAt, s.startedAt = some startedAt ∧
    (around.clock (isRunning around s).state.awake.outside).Apart startedAt

/-- The time since a start is not below zero, and there is none without a start. -/
def IsUptime (startedAt uptime : Option Reading) : Prop :=
  (startedAt = none → uptime = none) ∧ ∀ reading, uptime = some reading → reading.IsNonneg

theorem isUptime_none (startedAt : Option Reading) : IsUptime startedAt none :=
  ⟨fun _ => rfl, nofun⟩

theorem isUptime_some {startedAt reading : Reading} (hreading : reading.IsNonneg) :
    IsUptime (some startedAt) (some reading) :=
  ⟨nofun, fun _ hsome => Option.some.inj hsome ▸ hreading⟩

theorem uptime_of_none (around : Surroundings ε) (hstart : s.startedAt = none) :
    uptime around s = ⟨.ok none, s, []⟩ := by
  rw [uptime, Act.run_bind, Act.run_view, hstart]
  rfl

/-- The time that a running server has been up. -/
def sinceStart (around : Surroundings ε) (startedAt : Reading) (running : Bool) :
    Act (Supervised ε) (Option Reading) := do
  if running then return some (← Act.ofExcept (elapsed (← now around) startedAt))
  else return none

theorem uptime_of_some {startedAt : Reading} (hstart : s.startedAt = some startedAt) :
    uptime around s = (isRunning around >>= sinceStart around startedAt) s := by
  rw [uptime, Act.run_bind, Act.run_view, hstart]
  rfl

include haround

/-- **The time since the start** is there unless the clock and the start are apart. The question
itself changes nothing in either case. -/
theorem answers_uptime (s : Supervised ε) :
    IsFacing s (uptime around s).state ∧
    (¬ IsOverdue around s → Answers (uptime around) s (IsUptime s.startedAt)) ∧
    (IsOverdue around s → (uptime around s).outcome = .error .pastReals) := by
  cases hstart : s.startedAt with
  | none =>
    have hreport := uptime_of_none around hstart
    refine ⟨hreport ▸ .refl s,
      fun _ => ⟨none, by rw [hreport], hreport ▸ .refl s, isUptime_none _⟩, ?_⟩
    rintro ⟨-, startedAt, hsome, -⟩
    rw [hstart] at hsome
    cases hsome
  | some startedAt =>
    obtain ⟨running, hrunning, hasked⟩ := (keeps_isRunning haround).yields s (.refl s)
    have houtcome : (uptime around s).outcome =
        (sinceStart around startedAt running (isRunning around s).state).outcome := by
      rw [uptime_of_some hstart, Act.outcome_bind_ok hrunning]
    have hstate : (uptime around s).state = (isRunning around s).state := by
      rw [uptime_of_some hstart, Act.state_bind_ok hrunning]
      cases running with
      | false => rfl
      | true => cases h : elapsed (around.clock (isRunning around s).state.awake.outside) startedAt <;>
          simp [sinceStart, now, h]
    refine ⟨hstate ▸ hasked, fun hthere => ?_, fun hover => ?_⟩
    · cases running with
      | false => exact ⟨none, houtcome.trans rfl, hstate ▸ hasked, isUptime_none _⟩
      | true =>
        cases hsub : (around.clock (isRunning around s).state.awake.outside).sub? startedAt with
        | none =>
          exact absurd ⟨hrunning, startedAt, hstart, Reading.sub?_eq_none_iff.mp hsub⟩ hthere
        | some difference =>
          refine ⟨some difference.orZero, ?_, hstate ▸ hasked,
            isUptime_some difference.isNonneg_orZero⟩
          rw [houtcome]
          simp [sinceStart, now, elapsed, hsub]
    · obtain ⟨hup, moment, hmoment, hapart⟩ := hover
      obtain rfl : running = true := Except.ok.inj (hrunning.symm.trans hup)
      obtain rfl : startedAt = moment := Option.some.inj (hstart.symm.trans hmoment)
      rw [houtcome]
      simp [sinceStart, now, elapsed, Reading.sub?_eq_none_iff.mpr hapart]

/-- **Questions are answered and change nothing.** Whatever the server answers to each question, or
fails with, there is an answer: the server runs if it says so, its state is the word for that, a port
is above zero, and what is known at one time agrees. How long the server has been up is answered
unless the clock and the start of the server are apart, which two readings of one kind never are. No
question changes anything but the outside world. -/
theorem questions_answered (s : Supervised ε) :
    Answers (isRunning around) s (fun running =>
      running = true ↔ (around.service.isRunning s.awake.outside).outcome = .ok true) ∧
    Answers (state around) s (fun word =>
      (isRunning around s).outcome.map stateWord = .ok word) ∧
    Answers (webifPort around) s (fun port => ∀ number, port = some number → 0 < number) ∧
    Answers (snapshot around) s (fun handle => handle.Agrees s.startedAt) ∧
    IsFacing s (uptime around s).state ∧
    (¬ IsOverdue around s → Answers (uptime around) s (IsUptime s.startedAt)) ∧
    (IsOverdue around s → (uptime around s).outcome = .error .pastReals) ∧
    ((∀ world startedAt, s.startedAt = some startedAt →
      (around.clock world).isWhole = startedAt.isWhole) → ¬ IsOverdue around s) := by
  obtain ⟨huptime, hanswered, hoverdue⟩ := answers_uptime haround s
  refine ⟨answers_isRunning haround s, answers_state haround s,
    answers_of_yields (yields_webifPort haround), answers_snapshot haround s, huptime, hanswered,
    hoverdue, ?_⟩
  rintro hkind ⟨-, startedAt, hstart, hapart⟩
  exact hapart.isWhole_ne (hkind _ startedAt hstart)

omit haround

/-! ## Single questions -/

/-- Surroundings that count the questions whether the server runs, the second of which fails. The
clock shows always the same. -/
def fickle (shown : Reading) : Surroundings Nat where
  service :=
    { start := fun _ _ => pure 0
      stop := pure ()
      isRunning := do
        let questions ← Act.get
        Act.modify (· + 1)
        if questions = 1 then Act.fail .nothingOpen else return true
      webifPort := pure 8080
      logLines := fun wanted _ => pure (none, wanted) }
  inhibitor := { acquire := fun _ => pure (), release := pure () }
  clock _ := shown
  interfaces := (pure [] : Act Nat (List Network.Interface))

theorem answersStatus_fickle (shown : Reading) : AnswersStatus (fickle shown) where
  isRunning world f hf := by
    by_cases hsecond : world = 1
    · subst hsecond
      cases hf
      rfl
    · have hok : ((fickle shown).service.isRunning world).outcome = .ok true := by
        simp [fickle, hsecond]
      rw [hok] at hf
      cases hf
  webifPort _ _ hf := by cases hf

/-- A supervisor with a start, before the first question. -/
def startedOn (startedAt : Reading) : Supervised Nat :=
  { awake := { token := {}, outside := 0 }, startedAt := some startedAt }

/-- The server fails when it is asked for the second time, and the clock was set back since the start.
There is no port, and no time has passed. -/
theorem questions_answered_fickle : AnswersStatus (fickle 3) ∧
    (∃ handle, (snapshot (fickle 3) (startedOn 5)).outcome = .ok handle ∧
      handle.Agrees (some 5) ∧ handle = ⟨true, none, some 5⟩) ∧
    Answers (uptime (fickle 3)) (startedOn 5) (IsUptime (some 5)) ∧
    (uptime (fickle 3) (startedOn 5)).outcome = .ok (some (.real (.finite false 0))) := by
  obtain ⟨-, -, -, ⟨handle, hhandle, -, hagrees⟩, -, hanswered, -, hkind⟩ :=
    questions_answered (answersStatus_fickle 3) (startedOn 5)
  have hthere : ¬ IsOverdue (fickle 3) (startedOn 5) := hkind fun _ startedAt hstart => by
    obtain rfl := Option.some.inj hstart
    rfl
  have hsnapshot : (snapshot (fickle 3) (startedOn 5)).outcome = .ok ⟨true, none, some 5⟩ := rfl
  obtain rfl := Except.ok.inj (hhandle.symm.trans hsnapshot)
  exact ⟨answersStatus_fickle 3, ⟨_, hhandle, hagrees, rfl⟩, hanswered hthere, rfl⟩

/-- **A clock without a time since the start**: the server was started at half a second, and the
clock shows an integer of four hundred digits. -/
theorem uptime_overdue : AnswersStatus (fickle (.whole (10 ^ 400))) ∧ ∀ answer,
    (uptime (fickle (.whole (10 ^ 400)))
      (startedOn (.real (.finite false (2 ^ 1073))))).outcome ≠ .ok answer := by
  refine ⟨answersStatus_fickle _, fun answer hanswer => ?_⟩
  have hapart : (Reading.whole (10 ^ 400)).Apart (.real (.finite false (2 ^ 1073))) :=
    .later _ (by decide +kernel)
  have hrefused := (answers_uptime (answersStatus_fickle (.whole (10 ^ 400)))
    (startedOn (.real (.finite false (2 ^ 1073))))).2.2 ⟨rfl, _, rfl, hapart⟩
  rw [hrefused] at hanswer
  cases hanswer

end Supervisor

end Warden
