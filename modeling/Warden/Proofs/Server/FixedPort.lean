import Warden.Proofs.Server.ChildView
import Warden.Proofs.Server.Run

/-!
# The port is fixed for the lifetime of a process

The port of the web interface is read once, when a process is launched. It is reported as long as
the process is alive and no stop that found it alive has succeeded. Edits of the configuration,
starts that are refused or fail, and stops that fail do not change it. Only a start that fails after
the launch, because the thread does not start that is to read the output, leaves a process with a port
of its own behind.

## Main definitions

* `Step.IsPossible`: no process is launched with a directory whose text the system refuses
* `Launches`, `Retires`: a step launches a process, or stops one that is alive
* `Retired`: some stop in a run found a process alive and succeeded

## Main results

* `Turns`, `turns`: what a step makes of the stored port and of the process that is alive
* `announced`: the stored port goes back to the launch of the process that is alive
* `port_fixed`: the reported port in every run
-/

namespace Warden.Server

/-- The command line names the directory, so no process is created when the system does not take
the text of the directory. -/
def Step.IsPossible (step : Step) : Prop :=
  ∀ directory level, step.deed = .start directory level → step.circumstances.launchFailure = none →
    ∀ text ∈ directory, Failure.ofText? text = none

/-- A step launches the process of a number, for which the files and the directory of the step come
to a port. -/
structure Launches (server : ChildServer) (step : Step) (number : Nat) (port : Int) : Prop where
  isStart : ∃ directory level, step.deed = .start directory level ∧
    ∀ state : ChildServer,
      (Webif.readPort step.circumstances.tree directory state).outcome = .ok port
  number_eq : number = server.machine.jobs.size
  size_eq : (step.report server).state.machine.jobs.size = number + 1

/-- A step is a stop that finds a process alive and succeeds. -/
structure Retires (server : ChildServer) (step : Step) : Prop where
  isStop : step.deed = .stop
  wasRunning : server.isRunning = true
  succeeds : (step.report server).outcome = .ok ()

/-- Some stop in a run found a process alive and succeeded. -/
def Retired (server : ChildServer) (steps : List Step) : Prop :=
  ∃ earlier step later, steps = earlier ++ step :: later ∧ Retires (after server earlier) step

theorem not_retired_nil (server : ChildServer) : ¬ Retired server [] := by
  rintro ⟨earlier, step, later, h, -⟩
  simp at h

theorem retired_snoc (server : ChildServer) (steps : List Step) (step : Step) :
    Retired server (steps ++ [step]) ↔
      Retired server steps ∨ Retires (after server steps) step := by
  constructor
  · rintro ⟨earlier, retiring, later, hsteps, hretires⟩
    rcases List.eq_nil_or_concat later with rfl | ⟨later, last, rfl⟩
    · obtain ⟨rfl, hlast⟩ := List.append_inj' hsteps rfl
      obtain rfl := List.singleton_inj.mp hlast
      exact .inr hretires
    · rw [List.concat_eq_append, ← List.cons_append, ← List.append_assoc] at hsteps
      obtain ⟨rfl, -⟩ := List.append_inj' hsteps rfl
      exact .inl ⟨earlier, retiring, later, rfl, hretires⟩
  · rintro (⟨earlier, retiring, later, rfl, hretires⟩ | hretires)
    · exact ⟨earlier, retiring, later ++ [step], by simp, hretires⟩
    · exact ⟨steps, step, [], rfl, hretires⟩

/-! ## What commands make of the port -/

theorem webifPort_eq_of_alive? {server other : ChildServer} (hport : server.port = other.port)
    (halive : server.alive? = other.alive?) : server.webifPort = other.webifPort := by
  rw [ChildServer.webifPort, ChildServer.webifPort, ChildServer.isRunning, ChildServer.isRunning,
    hport, halive]

@[simp] theorem webifPort_under (server : ChildServer) (circumstances : Circumstances) :
    (server.under circumstances).webifPort = server.webifPort :=
  webifPort_eq_of_alive? rfl (alive?_under circumstances server)

theorem alive?_retimed (server : ChildServer) (events : List Event) (timer : KillTimer) :
    (server.retimed events timer).alive? = server.alive? := by
  have hcurrent : (server.retimed events timer).current = server.current := rfl
  have halive : (server.retimed events timer).machine.isAlive = server.machine.isAlive :=
    funext fun number => isAlive_retimed ..
  rw [ChildServer.alive?, ChildServer.alive?, hcurrent, halive]

theorem alive?_asked (server : ChildServer) (target : Nat) (signals : List Event) :
    (server.asked target signals).alive? = server.alive? :=
  alive?_retimed { server with machine := server.machine.noting signals } _ _

theorem alive?_untimed (server : ChildServer) (target : Nat) (signals : List Event) :
    (server.untimed target signals).alive? = server.alive? :=
  alive?_retimed { server with machine := server.machine.noting signals } _ _

/-- Events alone change neither the process that is alive nor the port. -/
theorem webifPort_noting (server : ChildServer) (events : List Event) :
    ({ server with machine := server.machine.noting events } : ChildServer).webifPort =
      server.webifPort := rfl

/-- **A start that is refused or fails** does not change the port, if threads can be started. -/
theorem webifPort_starts {server after : ChildServer} {directory : Option String} {level : Int}
    {outcome : Except Failure Int} (h : ChildServer.Starts server directory level outcome after)
    (htaken : server.machine.launchFailure = none →
      ∀ text ∈ directory, Failure.ofText? text = none)
    (hthreaded : server.machine.threadFailure = none)
    (hfails : outcome ≠ .ok 0) : after.webifPort = server.webifPort := by
  cases h with
  | running | unresolved | missing | unwritten | unplaced => rfl
  | failed => exact webifPort_noting ..
  | unread path place failure hidle hresolve hplace hlaunch hport =>
    -- There is a port for every directory with which a process is launched.
    exact absurd hport (Webif.portOf_ne_error (htaken hlaunch))
  | unheard path place port failure hidle hresolve hplace hlaunch hport hreader =>
    rw [hthreaded, Job.readerFailure_none] at hreader
    cases hreader
  | launched => exact absurd rfl hfails

/-- **A stop that fails** does not change the port. -/
theorem webifPort_stops {server after : ChildServer} {outcome : Except Failure Unit}
    (h : ChildServer.Stops server outcome after) (hfails : outcome ≠ .ok ()) :
    after.webifPort = server.webifPort := by
  cases h with
  | idle | asked => exact absurd rfl hfails
  | failed => exact webifPort_noting ..
  | untimed number signals => exact webifPort_eq_of_alive? rfl (alive?_untimed server number signals)

/-! ## Steps -/

/-- The ways in which a step goes on with the port: a process is launched, a stop that found it
alive succeeds, or the port stays and no other process comes to life. -/
inductive Turns (server : ChildServer) (step : Step) (after : ChildServer) : Prop
  | launched (number : Nat) (port : Int) (hlaunch : Launches server step number port)
      (hport : after.port = port)
      (halive : ∀ other, after.alive? = some other → other = number)
  | retired (hretires : Retires server step) (hport : after.port = -1)
      (halive : after.alive? = server.alive?)
  | kept (hretires : ¬ Retires server step) (hport : after.port = server.port)
      (halive : ∀ number, after.alive? = some number → server.alive? = some number)

theorem Quiet.alive? {server after : ChildServer} (hquiet : Quiet server after) {number : Nat}
    (h : after.alive? = some number) : server.alive? = some number := by
  obtain ⟨hcurrent, halive⟩ := alive?_eq_some.mp h
  exact alive?_eq_some.mpr
    ⟨hquiet.current_eq.symm.trans hcurrent, hquiet.alive_of_alive number halive⟩

theorem turns_start {server : ChildServer} {circumstances : Circumstances}
    {directory : Option String} {level : Int}
    (hpossible : Step.IsPossible ⟨circumstances, .start directory level⟩) :
    Turns server ⟨circumstances, .start directory level⟩
      (Step.report ⟨circumstances, .start directory level⟩ server).state := by
  have hretires : ¬ Retires server ⟨circumstances, .start directory level⟩ := by
    intro h
    cases h.isStop
  have hend := ChildServer.starts (server.under circumstances) directory level
  have hstate := state_start directory level (server.under circumstances)
  rw [Step.report, hstate]
  generalize hafter : (ChildServer.start directory level (server.under circumstances)).state = after
    at hend ⊢
  generalize (ChildServer.start directory level (server.under circumstances)).outcome = outcome
    at hend
  have hkept : ∀ number, (server.under circumstances).alive? = some number →
      server.alive? = some number := fun number h => by rwa [alive?_under] at h
  cases hend with
  | running | unresolved | missing | unwritten | unplaced => exact .kept hretires rfl hkept
  | failed => exact .kept hretires rfl hkept
  | unread path place failure hidle hresolve hplace hlaunch hport =>
    have htaken := hpossible directory level rfl hlaunch
    exact absurd hport (Webif.portOf_ne_error htaken)
  | unheard path place port failure hidle hresolve hplace hlaunch hport
  | launched path place port hidle hresolve hplace hlaunch hport =>
    refine .launched server.machine.jobs.size port ⟨⟨directory, level, rfl, fun state => ?_⟩, rfl,
      ?_⟩ rfl fun other hother => ?_
    · rw [Webif.outcome_readPort]
      exact hport
    · rw [Step.report, hstate, hafter, ← size_jobs_under circumstances server.machine]
      exact Array.size_push _
    · obtain ⟨hcurrent, -⟩ := alive?_eq_some.mp hother
      rw [← size_jobs_under circumstances server.machine]
      exact (Option.some.inj hcurrent).symm

theorem turns_stop (server : ChildServer) (circumstances : Circumstances) :
    Turns server ⟨circumstances, .stop⟩ (Step.report ⟨circumstances, .stop⟩ server).state := by
  have hend := ChildServer.stops (server.under circumstances)
  have hrunning : server.isRunning = (server.under circumstances).isRunning := by
    rw [ChildServer.isRunning, ChildServer.isRunning, alive?_under]
  have hreport : Step.report ⟨circumstances, .stop⟩ server =
      ChildServer.stop (server.under circumstances) := rfl
  -- Whether the stop retires a process is read off its outcome.
  have hretires : Retires server ⟨circumstances, .stop⟩ ↔
      (server.under circumstances).isRunning = true ∧
        (ChildServer.stop (server.under circumstances)).outcome = .ok () :=
    ⟨fun h => ⟨hrunning ▸ h.wasRunning, hreport ▸ h.succeeds⟩,
      fun h => ⟨rfl, hrunning.trans h.1, hreport ▸ h.2⟩⟩
  have halive : (server.under circumstances).alive? = server.alive? := alive?_under ..
  rw [hreport]
  generalize (ChildServer.stop (server.under circumstances)).state = after at hend ⊢
  generalize (ChildServer.stop (server.under circumstances)).outcome = outcome at hend hretires
  cases hend with
  | idle hidle =>
    refine .kept (fun h => ?_) rfl fun number h => halive ▸ h
    rw [ChildServer.isRunning_eq_false hidle] at hretires
    exact Bool.noConfusion (hretires.mp h).1
  | failed => exact .kept (fun h => by cases (hretires.mp h).2) rfl fun number h => halive ▸ h
  | untimed number signals =>
    refine .kept (fun h => by cases (hretires.mp h).2) rfl fun other h => ?_
    rwa [alive?_untimed, halive] at h
  | asked number signals hfound =>
    refine .retired (hretires.mpr ⟨?_, rfl⟩) rfl ?_
    · rw [ChildServer.isRunning, hfound]
      rfl
    · rw [alive?_asked, halive]

/-- **Every step** goes on with the port in one of these ways. -/
theorem turns {server : ChildServer} {step : Step} (hpossible : step.IsPossible) :
    Turns server step (step.report server).state := by
  obtain ⟨circumstances, deed⟩ := step
  have hquiet : ∀ after, Quiet (server.under circumstances) after →
      ∀ number, after.alive? = some number → server.alive? = some number :=
    fun after hquiet number h => by
      have hbefore := hquiet.alive? h
      rwa [alive?_under] at hbefore
  cases deed with
  | start directory level => exact turns_start hpossible
  | stop => exact turns_stop server circumstances
  | exit position code =>
    refine .kept (fun h => by cases h.isStop) ?_ (hquiet _ (quiet_exit ..))
    rw [Step.report, Deed.act, ChildServer.state_exit]
    cases numberAt position (server.under circumstances).machine.jobs.size <;> rfl
  | fire position =>
    have hfires := ChildServer.fires (server.under circumstances) position
    refine .kept (fun h => by cases h.isStop) ?_ (hquiet _ (quiet_fires hfires))
    rw [Step.report, Deed.act]
    generalize (ChildServer.fire position (server.under circumstances)).state = after at hfires ⊢
    cases hfires <;> rfl

/-! ## Runs -/

/-- **The stored port** goes back to the launch of the process that is alive, unless a stop that
found it alive has succeeded since. -/
theorem announced {fresh : ChildServer} (hidle : fresh.alive? = none) (steps : List Step)
    (hpossible : ∀ step ∈ steps, step.IsPossible) {number : Nat}
    (halive : (after fresh steps).alive? = some number) :
    ∃ earlier launch later port, steps = earlier ++ launch :: later ∧
      Launches (after fresh earlier) launch number port ∧
      (¬ Retired (after fresh (earlier ++ [launch])) later → (after fresh steps).port = port) ∧
      (Retired (after fresh (earlier ++ [launch])) later → (after fresh steps).port = -1) := by
  induction steps using List.reverseRecOn with
  | nil =>
    rw [after_nil, hidle] at halive
    cases halive
  | append_singleton steps step ih =>
    have hbefore := ih fun step h => hpossible step (by simp [h])
    have hturns : Turns (after fresh steps) step _ := turns (hpossible step (by simp))
    rw [after_append, after_singleton] at halive ⊢
    cases hturns with
    | launched found port hlaunch hport hfound =>
      obtain rfl := hfound number halive
      exact ⟨steps, step, [], port, rfl, hlaunch, fun _ => hport,
        fun h => absurd h (not_retired_nil _)⟩
    | retired hretires hport hsame =>
      obtain ⟨earlier, launch, later, port, rfl, hlaunch, -, -⟩ := hbefore (hsame ▸ halive)
      refine ⟨earlier, launch, later ++ [step], port, by simp, hlaunch, fun h => ?_,
        fun _ => hport⟩
      refine absurd ((retired_snoc ..).mpr (.inr ?_)) h
      rwa [← after_append, List.append_assoc, List.singleton_append]
    | kept hretires hport hsame =>
      obtain ⟨earlier, launch, later, port, rfl, hlaunch, hfree, hgone⟩ :=
        hbefore (hsame number halive)
      refine ⟨earlier, launch, later ++ [step], port, by simp, hlaunch, fun h => ?_, fun h => ?_⟩
      · exact hport.trans (hfree fun hold => h ((retired_snoc ..).mpr (.inl hold)))
      · rcases (retired_snoc ..).mp h with hold | hnow
        · exact hport.trans (hgone hold)
        · rw [← after_append, List.append_assoc, List.singleton_append] at hnow
          exact absurd hnow hretires

/-- The stored port comes from a launch, or it is -1. -/
theorem isPort_of_turns {server after : ChildServer} {step : Step}
    (h : Turns server step after) (hport : server.port = -1 ∨ Webif.isPort server.port) :
    after.port = -1 ∨ Webif.isPort after.port := by
  cases h with
  | launched number port hlaunch hset =>
    obtain ⟨directory, level, -, hread⟩ := hlaunch.isStart
    rw [hset]
    have hread := hread server
    rw [Webif.outcome_readPort] at hread
    exact Webif.portOf_range hread
  | retired _ hset => exact .inl hset
  | kept _ hset => rwa [hset]

theorem isPort_after (program : String) (ring : ServerLog.Ring) (grace : Numeric.Reading)
    (steps : List Step) (hpossible : ∀ step ∈ steps, step.IsPossible) :
    (after (.fresh program ring grace) steps).port = -1 ∨
      Webif.isPort (after (.fresh program ring grace) steps).port := by
  induction steps using List.reverseRecOn with
  | nil => exact .inl rfl
  | append_singleton steps step ih =>
    rw [after_append, after_singleton]
    exact isPort_of_turns (turns (hpossible step (by simp))) (ih fun step h => hpossible step
      (by simp [h]))

/-- **The port is fixed for the lifetime of a process.** After every run, while a process is alive,
the reported port is the one that the files and the directory came to at its launch, if no stop
that found it alive has succeeded since; it is -1 if such a stop has succeeded, and while no process
is alive. Starts that are refused or fail where threads can be started, and stops that fail, do not
change it. It is always -1 or a number from 1 to 65535. -/
theorem port_fixed (program : String) (ring : ServerLog.Ring) (grace : Numeric.Reading)
    (steps : List Step) (hpossible : ∀ step ∈ steps, step.IsPossible) :
    let fresh := ChildServer.fresh program ring grace
    let server := after fresh steps
    (∀ number, server.alive? = some number → ∃ earlier launch later port,
      steps = earlier ++ launch :: later ∧ Launches (after fresh earlier) launch number port ∧
      (¬ Retired (after fresh (earlier ++ [launch])) later → server.webifPort = port) ∧
      (Retired (after fresh (earlier ++ [launch])) later → server.webifPort = -1)) ∧
    (server.alive? = none → server.webifPort = -1) ∧
    (∀ (circumstances : Circumstances) directory level, circumstances.IsThreaded →
      Step.IsPossible ⟨circumstances, .start directory level⟩ →
      (ChildServer.start directory level (server.under circumstances)).outcome ≠ .ok 0 →
      (ChildServer.start directory level (server.under circumstances)).state.webifPort =
        server.webifPort) ∧
    (∀ circumstances, (ChildServer.stop (server.under circumstances)).outcome ≠ .ok () →
      (ChildServer.stop (server.under circumstances)).state.webifPort = server.webifPort) ∧
    (server.webifPort = -1 ∨ 1 ≤ server.webifPort ∧ server.webifPort ≤ 65535) := by
  intro fresh server
  have hreported : ∀ number, server.alive? = some number → server.webifPort = server.port := by
    intro number halive
    rw [ChildServer.webifPort, ChildServer.isRunning, halive]
    rfl
  have hsilent : server.alive? = none → server.webifPort = -1 := by
    intro hidle
    rw [ChildServer.webifPort, ChildServer.isRunning_eq_false hidle]
    rfl
  refine ⟨fun number halive => ?_, hsilent, fun circumstances directory level hthreaded hpos hfails => ?_,
    fun circumstances hfails => ?_, ?_⟩
  · rw [hreported number halive]
    exact announced rfl steps hpossible halive
  · have hend := ChildServer.starts (server.under circumstances) directory level
    rw [webifPort_starts hend (hpos directory level rfl) hthreaded hfails, webifPort_under]
  · rw [webifPort_stops (ChildServer.stops _) hfails, webifPort_under]
  · cases halive : server.alive? with
    | none => exact .inl (hsilent halive)
    | some number =>
      rw [hreported number halive]
      refine (isPort_after program ring grace steps hpossible).imp id fun h => ?_
      rw [Webif.isPort, Bool.and_eq_true, decide_eq_true_eq, decide_eq_true_eq] at h
      exact h

/-! ## A launch with a configuration that is edited later -/

/-- A program, and a configuration with a text. -/
def configured (text : List UInt8) : Circumstances where
  tree := { entries := [(["s"], .file [] 0o755), (["c"], .directory),
    (["c", "config.cfg"], .file text 0o644)] }

/-- A configuration that sets the port. -/
def editedText : List UInt8 :=
  "[webif]\nPORT=8181".toList.map fun c => UInt8.ofNat c.toNat

/-- A start with a configuration. -/
def configuredStart (text : List UInt8) : Step :=
  ⟨configured text, .start (some "/c") 0⟩

/-- The server before it is started. -/
def configurable : ChildServer :=
  .fresh "/s" default 5

theorem isPossible_configuredStart (text : List UInt8) : (configuredStart text).IsPossible := by
  rintro _ _ hdeed - text htext
  obtain ⟨rfl, -⟩ := Deed.start.inj hdeed
  obtain rfl := Option.mem_some.mp htext
  exact (Files.ofText?_eq_none "/c").mpr (by decide +kernel)

theorem portOf_configured (text : List UInt8) :
    Webif.portOf (configured text).tree (some "/c") =
      .ok (Webif.ofText (Text.Utf8.decode text)).answer := by
  have hpath : Webif.filePath "/c" = "/c/config.cfg" := by decide +kernel
  have hfind : (configured text).tree.find [] "/c/config.cfg" = .ok ["c", "config.cfg"] :=
    Files.Tree.find_of_walk _ (by decide +kernel) (by decide) (by decide) (by decide +kernel) rfl
  have hread : (configured text).tree.read "/c/config.cfg" = .ok (some text) :=
    Files.Tree.read_of_find _ hfind rfl rfl
  rw [Webif.portOf, hpath, hread]
  rfl

section Configured

variable {server : ChildServer} {text : List UInt8}

theorem resolve_configured (hprogram : server.program = "/s")
    (htree : server.machine.tree = (configured text).tree) : server.resolve = .ok (some "/s") := by
  have hfile : (configured text).tree.find [] "/s" = .ok ["s"] :=
    Files.Tree.find_of_walk _ (by decide +kernel) (by decide) (by decide) (by decide +kernel) rfl
  exact ChildServer.resolve_named hprogram (by decide +kernel) (by decide +kernel)
    (by rw [htree]; exact hfile) (by rw [htree]; rfl) rfl

theorem launchDirectory_configured (htree : server.machine.tree = (configured text).tree) :
    server.launchDirectory (some "/c") = .ok (some "/c") := by
  have hdirectory : (Files.Path.ofText "/c").text = "/c" := by decide +kernel
  have hconfig : (configured text).tree.find [] "/c" = .ok ["c"] :=
    Files.Tree.find_of_walk _ (by decide +kernel) (by decide) (by decide) (by decide +kernel) rfl
  exact ChildServer.launchDirectory_of_find (by decide)
    (by rw [htree, hdirectory]; exact hconfig) (by rw [htree]; rfl)

end Configured

/-- The first start launches a process. -/
theorem alive?_configured (text : List UInt8) :
    (after configurable [configuredStart text]).alive? = some 0 := by
  have hresolve : (configurable.under (configured text)).resolve = .ok (some "/s") :=
    resolve_configured rfl rfl
  have hplace : (configurable.under (configured text)).launchDirectory (some "/c") =
      .ok (some "/c") := launchDirectory_configured rfl
  have hstate : after configurable [configuredStart text] = _ :=
    (state_start (some "/c") 0 (configurable.under (configured text))).trans
      (ChildServer.start_of_found rfl hresolve hplace rfl rfl (portOf_configured text) rfl).2
  have hnumber : (configurable.under (configured text)).machine.jobs.size = 0 := size_jobs_under ..
  rw [hstate, alive?_eq_some, ← hnumber]
  exact ⟨rfl, ChildServer.isAlive_adopted ..⟩

/-- A process is launched with an empty configuration. An edit that sets the port, and a start that
is refused, leave the port at what it was. -/
theorem port_fixed_edited :
    let server := after configurable [configuredStart []]
    server.webifPort = 8080 ∧
      (ChildServer.start (some "/c") 0 (server.under (configured editedText))).state.webifPort =
        8080 ∧
      Webif.portOf (configured editedText).tree (some "/c") = .ok 8181 := by
  intro server
  have hedited : (Webif.ofText (Text.Utf8.decode editedText)).answer = 8181 := by decide +kernel
  have halive : server.alive? = some 0 := alive?_configured []
  obtain ⟨hport, -, hrefused, -, -⟩ := port_fixed "/s" default 5 [configuredStart []]
    (by simpa using isPossible_configuredStart [])
  have hfirst : server.webifPort = 8080 := by
    obtain ⟨earlier, launch, later, port, hsteps, hlaunch, hfree, -⟩ := hport 0 halive
    -- The only step is the launch.
    obtain ⟨rfl, rfl, rfl⟩ : earlier = [] ∧ launch = configuredStart [] ∧ later = [] := by
      cases earlier with
      | nil => simpa [eq_comm] using hsteps
      | cons first earlier => simp at hsteps
    obtain ⟨_, _, hdeed, hread⟩ := hlaunch.isStart
    obtain ⟨rfl, -⟩ := Deed.start.inj hdeed
    have hread := hread server
    rw [Webif.outcome_readPort] at hread
    have hport := Except.ok.inj (hread.symm.trans (portOf_configured []))
    exact (hfree (not_retired_nil _)).trans hport
  refine ⟨hfirst, ?_, hedited ▸ portOf_configured editedText⟩
  refine Eq.trans (hrefused (configured editedText) (some "/c") 0 rfl
    (isPossible_configuredStart editedText) fun hlaunched => ?_) hfirst
  have hfound : (server.under (configured editedText)).alive? = some 0 :=
    (alive?_under ..).trans halive
  cases (ChildServer.start_of_alive hfound (some "/c") 0).symm.trans hlaunched

end Warden.Server
