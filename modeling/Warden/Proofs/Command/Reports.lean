import Warden.Proofs.Numeric.Writing
import Warden.Page.Actions
import Warden.Proofs.Supervisor.Discreet
import Warden.Proofs.Supervisor.Host

/-!
# What is reported of starts

Whoever orders a start hears of its end at most once: that there is no failure, or the failure of
the server in words. When the start fails in another way there is no report, and there is none of a
stop. So the display shows what was reported last, and a page has shown one alert for each failed
start that was ordered there.

## Main definitions

* `announced`: what is reported of how a start ended
* `Call`: the ways in which the host is told to start and to stop the server
* `Turn`, `run`: runs of calls while the outside world changes
* `announcements`, `alarms`: what is reported in a run, and what pages alert to

## Main results

* `run_handle_start`: a start is reported once or not at all, to whoever hears of it
* `given_up`: a start of which a failure is reported leaves no token and changes no start
* `reported`: how a call ends, and what it leaves on the display and on the pages
* `starts_reported`: all of this about every run of calls
-/

namespace Warden

/-! ## A start that is given up -/

namespace Supervisor

variable {ε : Type} (around : Surroundings ε) (supervised : Supervised ε)

theorem isOrdinary_of_isStartFailure {failure : Failure} (h : failure.isStartFailure) :
    Act.isOrdinary failure := by
  cases failure with
  | startFailed => rfl
  | _ => cases h

theorem startedAt_opened : (opened around supervised).startedAt = supervised.startedAt := by
  rw [opened, state_openBlock]
  rfl

theorem holds_opened (hopen : (openBlock around (questioned around supervised)).outcome = .ok ()) :
    0 < (opened around supervised).holds := by
  rw [outcome_openBlock] at hopen
  rw [opened, state_openBlock]
  cases henter :
      (KeepAwake.enter around.inhibitor (questioned around supervised).awake).outcome with
  | ok => exact Nat.succ_pos _
  | error => simp [henter, Except.map] at hopen

/-- The token is not held when no block could be opened with it. -/
theorem held_opened {failure : Failure}
    (hopen : (openBlock around (questioned around supervised)).outcome = .error failure) :
    (opened around supervised).awake.token.held = false := by
  rw [outcome_openBlock, KeepAwake.outcome_enter, KeepAwake.outcome_acquire] at hopen
  rw [opened, state_openBlock, KeepAwake.state_acquire]
  by_cases hheld : (questioned around supervised).awake.token.held
  · simp [hheld, Except.map] at hopen
  · cases hasked :
        (KeepAwake.asked around.inhibitor (questioned around supervised).awake).outcome with
    | ok => simp [hheld, hasked, Except.map] at hopen
    | error => simp [hheld]

/-- **A start of which a failure is reported** leaves no token, and does not change when the server
was started. -/
theorem given_up (directory : Option String) (level : Int) {failure : Failure}
    (houtcome : (start around directory level supervised).outcome = .error failure)
    (hfailure : failure.isStartFailure) :
    (start around directory level supervised).state.awake.token.held = false ∧
      (start around directory level supervised).state.startedAt =
        supervised.startedAt := by
  have hend := starts around supervised directory level
  have hordinary := isOrdinary_of_isStartFailure hfailure
  have hclosed (hopen : (openBlock around (questioned around supervised)).outcome = .ok ()) :
      (closed around (told around supervised directory level)).awake.token.held = false ∧
        (closed around (told around supervised directory level)).startedAt =
          supervised.startedAt := by
    refine ⟨held_closed _ _ fun _ => holds_opened around supervised hopen, ?_⟩
    rw [startedAt_closed]
    exact startedAt_opened around supervised
  rw [houtcome] at hend
  generalize (start around directory level supervised).state = after at hend ⊢
  generalize hresult : (Except.error failure : Except Failure Unit) = outcome at hend
  cases hend with
  | refused => obtain rfl := Except.error.inj hresult; cases hfailure
  | unquestioned other _ hrunning =>
    obtain rfl := Except.error.inj hresult
    rw [outcome_isRunning] at hrunning
    split at hrunning
    · cases hrunning
    · split_ifs at hrunning with hmild
      exact absurd (Except.error.inj hrunning ▸ hordinary) hmild
  | running | started => cases hresult
  | unopened other _ _ hopen =>
    exact ⟨held_opened around supervised hopen, startedAt_opened around supervised⟩
  | interrupted other _ _ _ _ hcancelled =>
    obtain rfl := Except.error.inj hresult
    rw [hordinary] at hcancelled
    cases hcancelled
  | failed _ _ _ hopen => exact hclosed hopen
  | declined _ _ _ hopen => exact hclosed hopen

end Supervisor

namespace Command

open Supervisor

variable {σ ω ε : Type}

/-! ## What is reported -/

/-- What is reported of how a start ended: its failure in words, or that there is none. A start that
fails in another way than the server is not reported. -/
def announced : Except Failure Unit → Option (Option String)
  | .ok () => some none
  | .error failure => if failure.isStartFailure then some (some failure.text) else none

/-- The host logs a failed start. -/
def hostError (words : String) : Log.Item :=
  .record ⟨.error, "Host: " ++ words⟩

/-- What a start comes to with its report. -/
def concluded (start : Report σ Unit) (report : Reporter σ) : Report σ Bool :=
  match announced start.outcome with
  | none => ⟨start.outcome.map fun _ => true, start.state, start.log⟩
  | some message =>
    let heard := report message start.state
    ⟨heard.outcome.map fun _ => message.isNone, heard.state,
      start.log ++ message.toList.map hostError ++ heard.log⟩

theorem run_map {α β : Type} (f : α → β) (act : Act σ α) (s : σ) :
    (f <$> act) s = ⟨(act s).outcome.map f, (act s).state, (act s).log⟩ := by
  change (act >>= fun answer => pure (f answer)) s = _
  rw [Act.run_bind]
  rcases act s with ⟨_ | _, _, _⟩
  · rfl
  · simp [Except.map]

/-- An act whose answer does not matter. -/
theorem run_bind_pure {α β : Type} (act : Act σ α) (answer : β) (s : σ) :
    (act >>= fun _ => pure answer) s =
      ⟨(act s).outcome.map fun _ => answer, (act s).state, (act s).log⟩ :=
  run_map (fun _ => answer) act s

/-- **A start is reported once or not at all**, to whoever hears of it. -/
theorem run_handle_start (supervise : Act (Supervised ε) Unit → Act σ Unit)
    (around : Surroundings ε) (directory : Option String) (level : Int) (report : Reporter σ)
    (s : σ) : handle supervise around .start directory level report s =
      concluded (supervise (Supervisor.start around directory level) s) report := by
  rw [handle, startAndReport, Act.run_bind]
  rcases hstart : supervise (Supervisor.start around directory level) s with ⟨⟨⟩ | ⟨⟩, after, log⟩
  · next failure =>
    by_cases hfailure : failure.isStartFailure
    · have htold : (do
          Act.note .error s!"Host: {failure.text}"
          report (some failure.text)
          return false : Act σ Bool) after =
          ⟨(report (some failure.text) after).outcome.map fun _ => false,
            (report (some failure.text) after).state,
            hostError failure.text :: (report (some failure.text) after).log⟩ := by
        rw [Act.run_bind, Act.run_note]
        simp only [run_bind_pure]
        rfl
      simp [hstart, concluded, announced, hfailure, htold]
    · simp [hstart, concluded, announced, hfailure, Act.run_bind]
      rfl
  · simp [hstart, concluded, announced, run_bind_pure]

/-- A failure of the server to start has words. -/
theorem nonEmpty?_text {failure : Failure} (h : failure.isStartFailure) :
    Text.nonEmpty? failure.text = some failure.text := by
  have hdefault (code : Int) : (Failure.startWords code).isEmpty = false := by
    rw [Failure.startWords, Failure.numbered]
    split
    · simp [toString]
    · next fault hcode =>
      rw [Numeric.Literal.eq_unwritable_of_write hcode]
      decide +kernel
  suffices hwords : failure.text.isEmpty = false by rw [Text.nonEmpty?, hwords]; rfl
  cases failure with
  | startFailed code message =>
    unfold Failure.text
    rcases message with _ | words
    · exact hdefault code
    · dsimp only
      split
      · exact hdefault code
      · next hwords => exact eq_false_of_ne_true hwords
  | _ => cases h

/-! ## Calls -/

/-- The ways in which the host is told to start and to stop the server. -/
inductive Call where
  /-- The host comes up with some settings. -/
  | boot (settings : Settings)
  /-- A button of a page is pressed. -/
  | press (command : Command)
  /-- A command is given in writing. -/
  | written (text : String) (directory : Option String) (level : Int)

namespace Call

/-- Whoever makes a call shows how its start ended: pages with an alert of their own. -/
def reporter : Call → Reporter (Premises ω ε)
  | press _ => Button.reportStart
  | _ => Poller.showError

/-- The answer to a call about a start that did not fail, or did. Pages ask for none. -/
def answer : Call → Bool → Option Bool
  | press _, _ => none
  | _, answer => some answer

/-- What a call does, and its answer. -/
def act (outer : Surroundings ε) : Call → Act (Premises ω ε) (Option Bool)
  | boot settings =>
    some <$> Warden.boot Poller.supervise (Site.around outer) settings Poller.showError
  | press command => do
    Button.command outer command
    return none
  | written text directory level => do
    let command ← Act.ofExcept (ofText text)
    some <$> command.handle Poller.supervise (Site.around outer) directory level Poller.showError

/-- What the start is ordered with that a call comes to, if it does. -/
def order? (settings : Settings) : Call → Option (Option String × Int)
  | boot own => if own.autoStart then some (own.configDirectory, own.debugLevel) else none
  | press .start => some (settings.configDirectory, settings.debugLevel)
  | press .stop => none
  | written text directory level =>
    if text = Command.start.text then some (directory, level) else none

/-- What is logged of a call before its start. -/
def notice : Call → List Log.Item
  | boot settings =>
    let place := Text.orNone settings.configDirectory
    [.record ⟨.info, s!"Host: auto-starting server (config_dir={place})"⟩]
  | _ => []

end Call

/-- The site of the premises. -/
def siteOf (premises : Premises ω ε) : Site ε :=
  premises.world.supervised.awake.outside

/-- A start is ordered, and not reported yet. -/
def startOf (outer : Surroundings ε) (order : Option String × Int) (premises : Premises ω ε) :
    Report (Premises ω ε) Unit :=
  Poller.supervise (Supervisor.start (Site.around outer) order.1 order.2) premises

/-- A command that is given on a page. -/
theorem run_command (outer : Surroundings ε) (command : Command) (premises : Premises ω ε) :
    Button.command outer command premises =
      let report := command.handle Poller.supervise (Site.around outer)
        (siteOf premises).settings.configDirectory (siteOf premises).settings.debugLevel
        Button.reportStart premises
      ⟨report.outcome.map fun _ => (), report.state, report.log⟩ :=
  run_map (fun _ => ()) _ premises

/-- A call that comes to a start, and its report. -/
theorem run_start (outer : Surroundings ε) (premises : Premises ω ε) {call : Call}
    {order : Option String × Int} (horder : call.order? (siteOf premises).settings = some order) :
    call.act outer premises =
      ⟨(concluded (startOf outer order premises) call.reporter).outcome.map call.answer,
        (concluded (startOf outer order premises) call.reporter).state,
        call.notice ++ (concluded (startOf outer order premises) call.reporter).log⟩ := by
  cases call with
  | boot own =>
    obtain ⟨hauto, rfl⟩ : own.autoStart ∧ (own.configDirectory, own.debugLevel) = order := by
      simpa [Call.order?] using horder
    simp only [Call.act, run_map, Warden.boot, hauto, if_true]
    rw [Act.run_bind, Act.run_note]
    simp only [run_handle_start]
    rfl
  | press command =>
    cases command with
    | stop => cases horder
    | start =>
      obtain rfl := Option.some.inj horder
      have hanswer (outcome : Except Failure Bool) : (outcome.map fun _ => ()).map (fun _ => none) =
          outcome.map (Call.press .start).answer := by cases outcome <;> rfl
      simp only [Call.act, run_bind_pure, run_command, run_handle_start, hanswer]
      rfl
  | written text directory level =>
    obtain ⟨rfl, rfl⟩ : text = Command.start.text ∧ (directory, level) = order := by
      simpa [Call.order?] using horder
    have hknown : ofText Command.start.text = .ok .start := rfl
    simp only [Call.act, hknown]
    rw [Act.run_bind, Act.run_ofExcept]
    simp only [run_map, run_handle_start]
    rfl

/-! ## What a call leaves behind -/

/-- The alert on a page about a failed start that was ordered there. -/
def Call.alarm? (call : Call) (message : Option String) : Option Alert :=
  match call with
  | .press _ => message.map (⟨·, .negative⟩)
  | _ => none

/-- The premises after a report. -/
def Call.shown (call : Call) (message : Option String) (premises : Premises ω ε) : Premises ω ε :=
  let supervised := premises.world.supervised
  let site := supervised.awake.outside
  let alerts := (call.alarm? message).toList ++ site.alerts
  { premises with
    world :=
      { premises.world with
        display := { premises.world.display with lastError := message }
        supervised :=
          { supervised with awake := { supervised.awake with outside := { site with alerts } } } } }

/-- A report is shown, and comes to nothing else. -/
theorem run_reporter (call : Call) {message : Option String}
    (hwords : ∀ words ∈ message, Text.nonEmpty? words = some words) (premises : Premises ω ε) :
    call.reporter message premises = ⟨.ok (), call.shown message premises, []⟩ := by
  cases call with
  | boot | written => rfl
  | press command =>
    cases message with
    | none => rfl
    | some words =>
      have hshown : (some words).bind Text.nonEmpty? = some words := hwords words rfl
      simp only [Call.reporter, Button.reportStart, hshown]
      rfl

/-! ## Runs -/

/-- A call, and how the outside world changed by itself before it. -/
structure Turn (ε : Type) where
  change : ε → ε := id
  call : Call

/-- The premises as a call finds them. -/
def Turn.found (turn : Turn ε) (premises : Premises ω ε) : Premises ω ε :=
  (Site.change (fun site => { site with outside := turn.change site.outside }) premises).state

/-- What a call comes to. -/
def Turn.report (outer : Surroundings ε) (premises : Premises ω ε) (turn : Turn ε) :
    Report (Premises ω ε) (Option Bool) :=
  turn.call.act outer (turn.found premises)

/-- The start that a call comes to, before it is reported, if there is one. -/
def Turn.start? (outer : Surroundings ε) (premises : Premises ω ε) (turn : Turn ε) :
    Option (Report (Premises ω ε) Unit) :=
  (turn.call.order? (siteOf premises).settings).map fun order =>
    startOf outer order (turn.found premises)

/-- What is reported of a call, if anything is. -/
def Turn.announced? (outer : Surroundings ε) (premises : Premises ω ε) (turn : Turn ε) :
    Option (Option String) :=
  (turn.start? outer premises).bind fun start => announced start.outcome

/-- The premises after a run of calls. -/
def run (outer : Surroundings ε) (premises : Premises ω ε) (turns : List (Turn ε)) :
    Premises ω ε :=
  turns.foldl (fun premises turn => (turn.report outer premises).state) premises

theorem run_cons (outer : Surroundings ε) (premises : Premises ω ε) (turn : Turn ε)
    (turns : List (Turn ε)) : run outer premises (turn :: turns) =
      run outer (turn.report outer premises).state turns := rfl

/-- What there is to tell about the calls of a run, in order. -/
def gathered {α : Type} (outer : Surroundings ε) (tell : Premises ω ε → Turn ε → Option α) :
    Premises ω ε → List (Turn ε) → List α
  | _, [] => []
  | premises, turn :: turns =>
    (tell premises turn).toList ++ gathered outer tell (turn.report outer premises).state turns

/-- The reports of a run. -/
def announcements (outer : Surroundings ε) (premises : Premises ω ε) (turns : List (Turn ε)) :
    List (Option String) :=
  gathered outer (fun premises turn => turn.announced? outer premises) premises turns

/-- The alerts of a run: one for each reported failure of a start that was ordered on a page. -/
def alarms (outer : Surroundings ε) (premises : Premises ω ε) (turns : List (Turn ε)) :
    List Alert :=
  gathered outer (fun premises turn => (turn.announced? outer premises).bind turn.call.alarm?)
    premises turns

/-- How a call ends, and what it leaves behind. -/
structure Reported (outer : Surroundings ε) (premises : Premises ω ε) (turn : Turn ε) : Prop where
  /-- A start that fails as the server does is answered with no, logged as an error of the host, and
  leaves neither the token nor another time of the start. -/
  failed : ∀ start failure, turn.start? outer premises = some start →
    start.outcome = .error failure → failure.isStartFailure →
    (turn.report outer premises).outcome = .ok (turn.call.answer false) ∧
      (turn.report outer premises).log =
        turn.call.notice ++ start.log ++ [hostError failure.text] ∧
      (turn.report outer premises).state.world.supervised.awake.token.held = false ∧
      (turn.report outer premises).state.world.supervised.startedAt =
        premises.world.supervised.startedAt
  /-- A start that does not fail is answered with yes. -/
  ended : ∀ start, turn.start? outer premises = some start → start.outcome = .ok () →
    (turn.report outer premises).outcome = .ok (turn.call.answer true) ∧
      (turn.report outer premises).log = turn.call.notice ++ start.log
  /-- Any other failure is the failure of the call. -/
  passed : ∀ start failure, turn.start? outer premises = some start →
    start.outcome = .error failure → failure.isStartFailure = false →
    (turn.report outer premises).outcome = .error failure ∧
      (turn.report outer premises).log = turn.call.notice ++ start.log
  /-- The display shows the report, if there is one, and what it showed before otherwise. -/
  lastError : (turn.report outer premises).state.world.display.lastError =
    (turn.announced? outer premises).getD premises.world.display.lastError
  /-- A page shows one alert about a reported failure of a start that was ordered there. -/
  alerts : (siteOf (turn.report outer premises).state).alerts =
    ((turn.announced? outer premises).bind turn.call.alarm?).toList ++ (siteOf premises).alerts

/-- What starts and stops leave alone. -/
theorem untouched {act : Act (Supervised (Site ε)) Unit}
    (hact : ∀ alerts, Minds (fun site => site.alerts = alerts) (fun _ => True) act)
    (premises : Premises ω ε) :
    (Poller.supervise act premises).state.world.display = premises.world.display ∧
      (siteOf (Poller.supervise act premises).state).alerts = (siteOf premises).alerts :=
  ⟨rfl, (hact _).state premises.world.supervised rfl⟩

theorem discreet_around (outer : Surroundings ε) (alerts : List Alert) :
    (Site.around outer).Discreet (fun site => site.alerts = alerts) fun _ => True :=
  (Surroundings.Discreet.trivial outer).within fun _ _ h => h

theorem untouched_start (outer : Surroundings ε) (order : Option String × Int)
    (premises : Premises ω ε) :
    (startOf outer order premises).state.world.display = premises.world.display ∧
      (siteOf (startOf outer order premises).state).alerts = (siteOf premises).alerts :=
  untouched (fun alerts => minds_start (discreet_around outer alerts) (fun _ _ => trivial) _ _)
    premises

theorem untouched_stop (outer : Surroundings ε) (premises : Premises ω ε) :
    (Poller.supervise (Supervisor.stop (Site.around outer)) premises).state.world.display =
        premises.world.display ∧
      (siteOf (Poller.supervise (Supervisor.stop (Site.around outer)) premises).state).alerts =
        (siteOf premises).alerts :=
  untouched (fun alerts => minds_stop (discreet_around outer alerts) fun _ _ => trivial) premises

/-- A call without a start leaves display and alerts alone. -/
theorem untouched_of_no_order (outer : Surroundings ε) (premises : Premises ω ε) {call : Call}
    (horder : call.order? (siteOf premises).settings = none) :
    (call.act outer premises).state.world.display = premises.world.display ∧
      (siteOf (call.act outer premises).state).alerts = (siteOf premises).alerts := by
  have hstop := untouched_stop outer premises
  cases call with
  | boot own =>
    have hauto : own.autoStart = false := by simpa [Call.order?] using horder
    simp only [Call.act, run_map, Warden.boot, hauto]
    exact ⟨rfl, rfl⟩
  | press command =>
    cases command with
    | start => cases horder
    | stop =>
      simp only [Call.act, run_bind_pure, run_command, handle]
      exact hstop
  | written text directory level =>
    have hstart : text ≠ Command.start.text := by simpa [Call.order?] using horder
    by_cases htext : text = Command.stop.text
    · have hknown : ofText text = .ok .stop := by rw [htext]; rfl
      simp only [Call.act, hknown]
      rw [Act.run_bind, Act.run_ofExcept]
      simp only [run_map, handle, run_bind_pure]
      exact hstop
    · have hunknown : ofText text = .error (.unknownCommand text) := by
        simp [ofText, hstart, htext]
      simp only [Call.act, hunknown]
      exact ⟨rfl, rfl⟩

/-- What a call comes to whose start ends in some way. -/
def Call.report (call : Call) (start : Report (Premises ω ε) Unit) :
    Report (Premises ω ε) (Option Bool) :=
  match start.outcome with
  | .ok () => ⟨.ok (call.answer true), call.shown none start.state, call.notice ++ start.log⟩
  | .error failure =>
    if failure.isStartFailure then
      ⟨.ok (call.answer false), call.shown (some failure.text) start.state,
        call.notice ++ start.log ++ [hostError failure.text]⟩
    else ⟨.error failure, start.state, call.notice ++ start.log⟩

theorem lastError_report (call : Call) (start : Report (Premises ω ε) Unit) :
    (call.report start).state.world.display.lastError =
      (announced start.outcome).getD start.state.world.display.lastError := by
  rw [Call.report]
  rcases start.outcome with failure | _
  · by_cases hfailure : failure.isStartFailure <;> simp [announced, hfailure, Call.shown]
  · rfl

theorem alerts_report (call : Call) (start : Report (Premises ω ε) Unit) :
    (siteOf (call.report start).state).alerts =
      ((announced start.outcome).bind call.alarm?).toList ++ (siteOf start.state).alerts := by
  rw [Call.report]
  rcases start.outcome with failure | _
  · by_cases hfailure : failure.isStartFailure <;> simp [announced, hfailure, Call.shown, siteOf]
  · rfl

theorem report_of_start (outer : Surroundings ε) {premises : Premises ω ε} {turn : Turn ε}
    {start : Report (Premises ω ε) Unit} (hstart : turn.start? outer premises = some start) :
    turn.report outer premises = turn.call.report start := by
  obtain ⟨order, horder, rfl⟩ := Option.map_eq_some_iff.mp hstart
  rw [Turn.report, run_start outer (turn.found premises) horder, concluded, Call.report]
  cases houtcome : (startOf outer order (turn.found premises)).outcome with
  | ok =>
    have hmessage : ∀ words ∈ (none : Option String), Text.nonEmpty? words = some words := nofun
    simp [announced, run_reporter turn.call hmessage, Except.map]
  | error failure =>
    by_cases hfailure : failure.isStartFailure
    · have hmessage : ∀ words ∈ some failure.text, Text.nonEmpty? words = some words := by
        rintro words ⟨⟩
        exact nonEmpty?_text hfailure
      simp [announced, hfailure, run_reporter turn.call hmessage, Except.map]
    · simp [announced, hfailure, Except.map]

/-- **How a call ends**, and what it leaves behind. -/
theorem reported (outer : Surroundings ε) (premises : Premises ω ε) (turn : Turn ε) :
    Reported outer premises turn := by
  cases hstart : turn.start? outer premises with
  | none =>
    have horder : turn.call.order? (siteOf premises).settings = none := by
      simpa [Turn.start?] using hstart
    obtain ⟨hdisplay, halerts⟩ := untouched_of_no_order outer (turn.found premises) horder
    have hsilent : turn.announced? outer premises = none := by rw [Turn.announced?, hstart]; rfl
    have hnever {start : Report (Premises ω ε) Unit} (h : turn.start? outer premises = some start) :
        False := by
      rw [hstart] at h
      cases h
    refine ⟨fun _ _ h => (hnever h).elim, fun _ h => (hnever h).elim, fun _ _ h => (hnever h).elim,
      ?_, ?_⟩
    · rw [hsilent]
      exact congrArg Display.lastError hdisplay
    · rw [hsilent]
      exact halerts
  | some start =>
    have hreport := report_of_start outer hstart
    obtain ⟨order, -, hordered⟩ := Option.map_eq_some_iff.mp hstart
    have hsame : start.state.world.display = premises.world.display ∧
        (siteOf start.state).alerts = (siteOf premises).alerts :=
      hordered ▸ untouched_start outer order (turn.found premises)
    have hsilent : turn.announced? outer premises = announced start.outcome := by
      rw [Turn.announced?, hstart]
      rfl
    refine ⟨fun other failure h houtcome hfailure => ?_, fun other h houtcome => ?_,
      fun other failure h houtcome hfailure => ?_, ?_, ?_⟩
    · obtain rfl : start = other := Option.some.inj (hstart.symm.trans h)
      rw [hreport, Call.report, houtcome]
      simp only [hfailure, if_true]
      subst hordered
      exact ⟨trivial, trivial, given_up (Site.around outer) (turn.found premises).world.supervised
        order.1 order.2 houtcome hfailure⟩
    · obtain rfl : start = other := Option.some.inj (hstart.symm.trans h)
      rw [hreport, Call.report, houtcome]
      exact ⟨rfl, rfl⟩
    · obtain rfl : start = other := Option.some.inj (hstart.symm.trans h)
      rw [hreport, Call.report, houtcome]
      simp [hfailure]
    · rw [hreport, hsilent, lastError_report, hsame.1]
    · rw [hreport, hsilent, alerts_report, hsame.2]

/-! ## What a run leaves behind -/

theorem lastError_run (outer : Surroundings ε) (premises : Premises ω ε) (turns : List (Turn ε)) :
    (run outer premises turns).world.display.lastError =
      ((announcements outer premises turns).getLast?).getD premises.world.display.lastError := by
  induction turns generalizing premises with
  | nil => rfl
  | cons turn turns ih =>
    have htold : announcements outer premises (turn :: turns) =
        (turn.announced? outer premises).toList ++
          announcements outer (turn.report outer premises).state turns := rfl
    rw [run_cons, ih, htold, (reported outer premises turn).lastError, List.getLast?_append]
    cases (announcements outer (turn.report outer premises).state turns).getLast? <;>
      cases turn.announced? outer premises <;> rfl

theorem alerts_run (outer : Surroundings ε) (premises : Premises ω ε) (turns : List (Turn ε)) :
    (siteOf (run outer premises turns)).alerts =
      (alarms outer premises turns).reverse ++ (siteOf premises).alerts := by
  induction turns generalizing premises with
  | nil => rfl
  | cons turn turns ih =>
    have htold : alarms outer premises (turn :: turns) =
        ((turn.announced? outer premises).bind turn.call.alarm?).toList ++
          alarms outer (turn.report outer premises).state turns := rfl
    rw [run_cons, ih, htold, (reported outer premises turn).alerts]
    cases (turn.announced? outer premises).bind turn.call.alarm? <;> simp

/-- A start logs no error of the host before it is reported. -/
theorem hostErrors_start {outer : Surroundings ε} (hquiet : outer.IsQuiet)
    (order : Option String × Int) (premises : Premises ω ε) :
    (startOf outer order premises).log.filter isHostError = [] := by
  have haround : (Site.around outer).IsQuiet := hquiet.within fun _ _ h => h
  have hstart := (minds_start haround (fun _ h => h) order.1 order.2).log
    premises.world.supervised trivial
  exact List.filter_eq_nil_iff.mpr fun item hitem => by simp [hstart item hitem]

theorem hostErrors_report {outer : Surroundings ε} (hquiet : outer.IsQuiet)
    {premises : Premises ω ε} {turn : Turn ε} {start : Report (Premises ω ε) Unit}
    {failure : Failure} (hstart : turn.start? outer premises = some start)
    (houtcome : start.outcome = .error failure) (hfailure : failure.isStartFailure) :
    (turn.report outer premises).log.filter isHostError = [hostError failure.text] := by
  obtain ⟨-, hlog, -⟩ :=
    (reported outer premises turn).failed start failure hstart houtcome hfailure
  obtain ⟨order, -, rfl⟩ := Option.map_eq_some_iff.mp hstart
  have hnotice : turn.call.notice.filter isHostError = [] := by
    cases turn.call <;> rfl
  have hhost : isHostError (hostError failure.text) = true := by
    simp [isHostError, hostError, List.isPrefixOf]
  rw [hlog, List.filter_append, List.filter_append, hnotice, hostErrors_start hquiet]
  simp [hhost]

/-- **Starts are reported, once each.** Whoever orders a start hears of it once, with the failure of
the server in words or with none, or never when it fails in another way; of a stop nobody hears.
Every call ends as `Reported` says, and a start whose failure is reported makes one error of the
host in the log. After every run the display shows what was reported last, and the pages have shown
one alert for each reported failure of a start that was ordered there. -/
theorem starts_reported (outer : Surroundings ε) (premises : Premises ω ε) :
    (∀ (σ : Type) (supervise : Act (Supervised ε) Unit → Act σ Unit) (directory : Option String)
      (level : Int) (report : Reporter σ) (s : σ),
      handle supervise outer .start directory level report s =
        concluded (supervise (Supervisor.start outer directory level) s) report ∧
      ∀ other, handle supervise outer .stop directory level report s =
        handle supervise outer .stop directory level other s) ∧
    (∀ turn : Turn ε, Reported outer premises turn) ∧
    (outer.IsQuiet → ∀ (turn : Turn ε) start failure, turn.start? outer premises = some start →
      start.outcome = .error failure → failure.isStartFailure →
      (turn.report outer premises).log.filter isHostError = [hostError failure.text]) ∧
    ∀ turns : List (Turn ε),
      (run outer premises turns).world.display.lastError =
        ((announcements outer premises turns).getLast?).getD premises.world.display.lastError ∧
      (siteOf (run outer premises turns)).alerts =
        (alarms outer premises turns).reverse ++ (siteOf premises).alerts :=
  ⟨fun _ supervise directory level report s =>
      ⟨run_handle_start supervise outer directory level report s, fun _ => rfl⟩,
    reported outer premises,
    fun hquiet _ _ _ hstart houtcome hfailure => hostErrors_report hquiet hstart houtcome hfailure,
    fun turns => ⟨lastError_run outer premises turns, alerts_run outer premises turns⟩⟩

end Command

end Warden
