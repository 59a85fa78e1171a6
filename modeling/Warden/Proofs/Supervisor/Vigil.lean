import Warden.Proofs.Supervisor.Host

/-!
# The host is kept awake while the server runs

From the launch of a process on, until the server is stopped, the token is held while the process is
alive, and the start of the server is the moment of the launch. After a stop, and before the first
launch, the token is not held and there is no start. In between, the process may end behind the
supervisor's back, starts may fail and close the open blocks, and stops may fail midway.

## Main definitions

* `Vigil supervised mark`: the invariant; the mark is the last launch that no stop followed

## Main results

* `Vigil.start`, `Vigil.stop`, `Vigil.quiet`: what one turn makes of it
* `kept_awake`: the token and the start of the server in every run
-/

namespace Warden.Supervisor

open Warden.KeepAwake (Inhibitor)
open Warden.Numeric (Reading)
open Warden.Server

variable {τ : Type}

/-- The number of processes that were launched. -/
def launches (supervised : Supervised (Host τ)) : Nat :=
  (serverOf supervised).machine.jobs.size

/-- The token is held in an open block only. Without a mark it is not held, and there is no start. A
mark is the current process with the moment of its launch, and the token is held while the process
is alive. -/
structure Vigil (supervised : Supervised (Host τ)) (mark : Option (Nat × Reading)) : Prop where
  tended : Tended (serverOf supervised)
  open_of_held : supervised.awake.token.held → 0 < supervised.holds
  unmarked : mark = none → supervised.awake.token.held = false ∧ supervised.startedAt = none
  marked : ∀ number moment, mark = some (number, moment) →
    (serverOf supervised).current = some number ∧ number < launches supervised ∧
      supervised.startedAt = some moment ∧
      ((serverOf supervised).machine.isAlive number → supervised.awake.token.held)

namespace Vigil

variable {supervised : Supervised (Host τ)} {mark : Option (Nat × Reading)}

/-- Nothing was launched, and the supervisor did nothing. -/
theorem quiet (vigil : Vigil supervised mark) {outside : Host τ}
    (hquiet : Quiet (serverOf supervised) outside.server) (htended : Tended outside.server) :
    Vigil (supervised.facing outside) mark where
  tended := htended
  open_of_held := vigil.open_of_held
  unmarked := vigil.unmarked
  marked number moment hmark := by
    obtain ⟨hcurrent, hlt, hstarted, hheld⟩ := vigil.marked number moment hmark
    refine ⟨hquiet.current_eq.trans hcurrent, ?_, hstarted,
      fun halive => hheld (hquiet.alive_of_alive number halive)⟩
    rw [launches] at hlt ⊢
    exact Nat.lt_of_lt_of_eq hlt hquiet.size_eq.symm

/-- **A start** launches a process, which is marked then, or it leaves the mark. -/
theorem start (vigil : Vigil supervised mark) {level : Int} {child : ChildServer}
    {after : Supervised (Host τ)} (hend : HostStarts supervised level child after)
    (htended : Tended child) :
    (launches after = launches supervised + 1 ∧
      Vigil after (some (launches supervised, supervised.awake.outside.clock))) ∨
    (launches after = launches supervised ∧ Vigil after mark) := by
  cases hend with
  | skipped => exact .inr ⟨rfl, vigil⟩
  | failed _ hidle hserver hjobs hcurrent hheld hstarted =>
    rw [← hserver] at hjobs hcurrent htended
    refine .inr ⟨by rw [launches, hjobs, launches], htended, fun h => ?_, fun hmark => ?_,
      fun number moment hmark => ?_⟩
    · rw [hheld] at h
      cases h
    · exact ⟨hheld, hstarted.trans (vigil.unmarked hmark).2⟩
    · obtain ⟨hlast, hlt, hmoment, -⟩ := vigil.marked number moment hmark
      refine ⟨hcurrent.trans hlast, by rwa [launches, hjobs], hstarted.trans hmoment,
        fun halive => ?_⟩
      -- The marked process had ended, or the start would have been skipped.
      rw [Machine.isAlive, hjobs] at halive
      exact absurd halive (vigil.tended.not_alive hidle number)
  | launched _ hserver hjobs hcurrent hheld hholds hstarted =>
    rw [← hserver] at hjobs hcurrent htended
    have hlaunches : launches after = launches supervised + 1 := by
      rw [launches, hjobs, Array.size_push, launches]
    refine .inl ⟨hlaunches, htended, fun _ => hholds, by simp, fun number moment hmark => ?_⟩
    obtain ⟨rfl, rfl⟩ := Prod.mk.inj (Option.some.inj hmark)
    exact ⟨hcurrent, by omega, hstarted, fun _ => hheld⟩

variable {inhibitor : Inhibitor τ} {interfaces : Network.Source (Host τ)}

/-- **A stop** removes the mark. -/
theorem stop (vigil : Vigil supervised mark) :
    launches (Supervisor.stop (Host.around inhibitor interfaces) supervised).state =
      launches supervised ∧
    Vigil (Supervisor.stop (Host.around inhibitor interfaces) supervised).state none := by
  have hchild := ChildServer.stops (serverOf supervised)
  have hserver : serverOf (Supervisor.stop (Host.around inhibitor interfaces) supervised).state =
      (ChildServer.stop (serverOf supervised)).state := by
    rw [state_stop, server_closed, state_halt_host]
    rfl
  have hheld : (Supervisor.stop (Host.around inhibitor interfaces)
      supervised).state.awake.token.held = false := by
    rw [state_stop, state_halt_host]
    exact held_closed _ _ vigil.open_of_held
  refine ⟨?_, ?_, fun h => ?_, fun _ => ⟨hheld, ?_⟩, by simp⟩
  · rw [launches, hserver, (quiet_stops hchild).size_eq, launches]
  · rw [hserver]
    exact vigil.tended.stop hchild
  · rw [hheld] at h
    cases h
  · rw [state_stop, startedAt_closed]

end Vigil

/-! ## Turns and runs -/

section Runs

variable {inhibitor : Inhibitor τ} {interfaces : Network.Source (Host τ)}
  {supervised after : Supervised (Host τ)} {mark : Option (Nat × Reading)}

/-- The ways in which a vigil goes on: the server is stopped and the mark removed, a process is
launched and marked, or nothing is launched and the mark stays. -/
inductive GoesOn (supervised after : Supervised (Host τ)) (mark : Option (Nat × Reading))
    (isEnd : Prop) (moment : Reading) : Prop
  | stopped (hend : isEnd) (hlaunches : launches after = launches supervised)
      (hvigil : Vigil after none)
  | launched (hend : ¬ isEnd) (hlaunches : launches after = launches supervised + 1)
      (hvigil : Vigil after (some (launches supervised, moment)))
  | kept (hend : ¬ isEnd) (hlaunches : launches after = launches supervised)
      (hvigil : Vigil after mark)

/-- **Whatever happens**, the vigil goes on. -/
theorem Vigil.happening (vigil : Vigil supervised mark)
    (hacquire : ∀ name lock, (inhibitor.acquire name lock).outcome = .ok ()) (happening : Happening)
    (hpossible : happening.IsPossible (serverOf supervised).machine.launchFailure
      (serverOf supervised).machine.threadFailure) :
    GoesOn supervised (happening.act inhibitor interfaces supervised).state mark happening.IsEnd
      supervised.awake.outside.clock := by
  cases happening with
  | start directory level =>
    have hend := hostStarts inhibitor interfaces supervised hacquire directory level hpossible
    have htended := vigil.tended.start (ChildServer.starts _ directory level)
    rcases vigil.start hend htended with ⟨hmore, hmarked⟩ | ⟨hsame, hkept⟩
    · exact .launched id hmore hmarked
    · exact .kept id hsame hkept
  | stop | close => exact .stopped trivial vigil.stop.1 vigil.stop.2
  | exit position code =>
    have hquiet := quiet_exit (serverOf supervised) position code
    exact .kept id hquiet.size_eq (vigil.quiet hquiet (vigil.tended.exit position code))
  | fire position =>
    have hend := ChildServer.fires (serverOf supervised) position
    have hquiet := quiet_fires hend
    exact .kept id hquiet.size_eq (vigil.quiet hquiet (vigil.tended.fire hend))

/-- **In every turn** the vigil goes on. -/
theorem Vigil.turn (vigil : Vigil supervised mark)
    (hacquire : ∀ name lock, (inhibitor.acquire name lock).outcome = .ok ())
    (turn : Turn τ) (hpossible : turn.IsPossible) :
    GoesOn supervised (turn.report inhibitor interfaces supervised).state mark turn.IsEnd
      turn.clock := by
  have hfound : Vigil (supervised.facing (turn.host supervised.awake.outside)) mark :=
    vigil.quiet (quiet_under ..) (vigil.tended.under _)
  have hcount : launches (supervised.facing (turn.host supervised.awake.outside)) =
      launches supervised := size_jobs_under ..
  have hgoes : GoesOn (supervised.facing (turn.host supervised.awake.outside))
      (turn.report inhibitor interfaces supervised).state mark turn.IsEnd turn.clock :=
    hfound.happening hacquire turn.happening hpossible
  cases hgoes with
  | stopped hend hlaunches hvigil => exact .stopped hend (hlaunches.trans hcount) hvigil
  | launched hend hlaunches hvigil =>
    rw [hcount] at hlaunches hvigil
    exact .launched hend hlaunches hvigil
  | kept hend hlaunches hvigil => exact .kept hend (hlaunches.trans hcount) hvigil

/-- The vigil of a run that nothing ended: the mark moves to later launches only. -/
theorem Vigil.since (hacquire : ∀ name lock, (inhibitor.acquire name lock).outcome = .ok ())
    {number : Nat} {moment : Reading} (vigil : Vigil supervised (some (number, moment)))
    (turns : List (Turn τ)) (hpossible : ∀ turn ∈ turns, turn.IsPossible)
    (hends : ∀ turn ∈ turns, ¬ turn.IsEnd) :
    ∃ last latest, Vigil (afterTurns inhibitor interfaces supervised turns) (some (last, latest)) ∧
      number ≤ last ∧ (last = number → latest = moment) := by
  induction turns using List.reverseRecOn with
  | nil => exact ⟨number, moment, vigil, Nat.le_refl _, fun _ => rfl⟩
  | append_singleton turns turn ih =>
    obtain ⟨last, latest, hvigil, hle, hlatest⟩ :=
      ih (fun turn h => hpossible turn (by simp [h])) fun turn h => hends turn (by simp [h])
    rw [afterTurns_append]
    have hgoes : GoesOn _ (turn.report inhibitor interfaces _).state _ turn.IsEnd turn.clock :=
      hvigil.turn hacquire turn (hpossible turn (by simp))
    cases hgoes with
    | stopped hend => exact absurd hend (hends turn (by simp))
    | launched hend hlaunches hmarked =>
      -- A process that is launched later has a larger number.
      obtain ⟨-, hlt, -, -⟩ := hvigil.marked last latest rfl
      exact ⟨_, _, hmarked, by omega, fun heq => by omega⟩
    | kept hend hlaunches hkept => exact ⟨last, latest, hkept, hle, hlatest⟩

/-- A turn of a run launched a process. -/
def LaunchedAt (inhibitor : Inhibitor τ) (interfaces : Network.Source (Host τ))
    (supervised : Supervised (Host τ)) (before : List (Turn τ)) (turn : Turn τ) (number : Nat) :
    Prop :=
  number = launches (afterTurns inhibitor interfaces supervised before) ∧
    launches (afterTurns inhibitor interfaces supervised (before ++ [turn])) = number + 1

/-- The vigil of a whole run: a mark comes from a launch that no stop followed. -/
theorem Vigil.run (hacquire : ∀ name lock, (inhibitor.acquire name lock).outcome = .ok ())
    (vigil : Vigil supervised none) (turns : List (Turn τ))
    (hpossible : ∀ turn ∈ turns, turn.IsPossible) :
    ∃ mark, Vigil (afterTurns inhibitor interfaces supervised turns) mark ∧
      (mark ≠ none → ∃ before turn rest number, turns = before ++ turn :: rest ∧
        LaunchedAt inhibitor interfaces supervised before turn number ∧
        ∀ later ∈ rest, ¬ later.IsEnd) := by
  induction turns using List.reverseRecOn with
  | nil => exact ⟨none, vigil, fun h => absurd rfl h⟩
  | append_singleton turns turn ih =>
    obtain ⟨mark, hvigil, hmark⟩ := ih fun turn h => hpossible turn (by simp [h])
    rw [afterTurns_append]
    have hgoes : GoesOn _ (turn.report inhibitor interfaces _).state _ turn.IsEnd turn.clock :=
      hvigil.turn hacquire turn (hpossible turn (by simp))
    cases hgoes with
    | stopped hend hlaunches hnone => exact ⟨none, hnone, fun h => absurd rfl h⟩
    | launched hend hlaunches hmarked =>
      have hlaunch : LaunchedAt inhibitor interfaces supervised turns turn
          (launches (afterTurns inhibitor interfaces supervised turns)) := by
        refine ⟨rfl, ?_⟩
        rw [afterTurns_append]
        exact hlaunches
      exact ⟨_, hmarked, fun _ => ⟨turns, turn, [], _, rfl, hlaunch, by simp⟩⟩
    | kept hend hlaunches hkept =>
      refine ⟨mark, hkept, fun h => ?_⟩
      obtain ⟨before, launch, rest, number, rfl, hlaunch, hrest⟩ := hmark h
      refine ⟨before, launch, rest ++ [turn], number, by simp, hlaunch, fun later hlater => ?_⟩
      rcases List.mem_append.mp hlater with hold | hnew
      · exact hrest later hold
      · rwa [List.mem_singleton.mp hnew]

end Runs

/-! ## The host is kept awake -/

/-- A supervisor on a host that has just been set up. -/
def freshOn (server : ChildServer) (name : String) (lock : τ) (clock : Reading) :
    Supervised (Host τ) where
  awake := { token := { name }, outside := { server, lock, clock } }

theorem vigil_freshOn (program : String) (ring : ServerLog.Ring) (grace : Reading) (name : String)
    (lock : τ) (clock : Reading) :
    Vigil (freshOn (.fresh program ring grace) name lock clock) none where
  tended := tended_fresh program ring grace
  open_of_held h := by cases h
  unmarked _ := ⟨rfl, rfl⟩
  marked _ _ h := by cases h

/-- **The host is kept awake while the server runs**, if the inhibitor does not fail to block
suspension. After every run, the token is held while a process is alive that was launched in a turn
since which nothing ended, and the start of the server is the moment of that turn. If a stop or a
close followed every launch, or there was none, the token is not held and there is no start. -/
theorem kept_awake (inhibitor : Inhibitor τ) (interfaces : Network.Source (Host τ))
    (hacquire : ∀ name lock, (inhibitor.acquire name lock).outcome = .ok ())
    (program : String) (ring : ServerLog.Ring) (grace : Reading) (name : String) (lock : τ)
    (clock : Reading) (turns : List (Turn τ)) (hpossible : ∀ turn ∈ turns, turn.IsPossible) :
    let fresh := freshOn (.fresh program ring grace) name lock clock
    let supervised := afterTurns inhibitor interfaces fresh turns
    (∀ before turn rest number, turns = before ++ turn :: rest →
      LaunchedAt inhibitor interfaces fresh before turn number →
      (∀ later ∈ rest, ¬ later.IsEnd) →
      (serverOf supervised).machine.isAlive number →
      supervised.awake.token.held = true ∧ supervised.startedAt = some turn.clock) ∧
    ((∀ before turn rest number, turns = before ++ turn :: rest →
      LaunchedAt inhibitor interfaces fresh before turn number → ∃ later ∈ rest, later.IsEnd) →
      supervised.awake.token.held = false ∧ supervised.startedAt = none) := by
  intro fresh supervised
  have vigil : Vigil fresh none := vigil_freshOn program ring grace name lock clock
  constructor
  · rintro before turn rest number rfl ⟨rfl, hlaunch⟩ hrest halive
    obtain ⟨mark, hbefore, -⟩ : ∃ mark,
        Vigil (afterTurns inhibitor interfaces fresh before) mark ∧ _ :=
      vigil.run hacquire before fun turn h => hpossible turn (by simp [h])
    rw [afterTurns_append] at hlaunch
    have hgoes : GoesOn _ (turn.report inhibitor interfaces _).state _ turn.IsEnd turn.clock :=
      hbefore.turn hacquire turn (hpossible turn (by simp))
    have hmarked : Vigil (turn.report inhibitor interfaces
        (afterTurns inhibitor interfaces fresh before)).state
          (some (launches (afterTurns inhibitor interfaces fresh before), turn.clock)) := by
      -- A launch changes the count, so the turn neither stopped the server nor kept the mark.
      cases hgoes with
      | stopped hend hsame | kept hend hsame =>
        have hmore := hlaunch.symm.trans hsame
        omega
      | launched hend hmore hvigil => exact hvigil
    obtain ⟨last, latest, hvigil, -, hlatest⟩ : ∃ last latest,
        Vigil supervised (some (last, latest)) ∧ _ := by
      simp only [supervised, afterTurns_append, afterTurns_cons]
      exact hmarked.since hacquire rest (fun turn h => hpossible turn (by simp [h])) hrest
    obtain ⟨hcurrent, -, hstarted, hheld⟩ := hvigil.marked last latest rfl
    -- The process that is alive is the current one, which is the last that was launched.
    have hlast : last = launches (afterTurns inhibitor interfaces fresh before) :=
      Option.some.inj (hcurrent.symm.trans (hvigil.tended.current_of_alive _ halive))
    refine ⟨hheld (hlast ▸ halive), ?_⟩
    rw [hstarted, hlatest hlast]
  · intro hended
    obtain ⟨mark, hvigil, hmark⟩ : ∃ mark, Vigil supervised mark ∧ _ :=
      vigil.run hacquire turns hpossible
    cases mark with
    | none => exact hvigil.unmarked rfl
    | some mark =>
      obtain ⟨before, turn, rest, number, hturns, hlaunch, hrest⟩ := hmark (by simp)
      obtain ⟨later, hlater, hend⟩ := hended before turn rest number hturns hlaunch
      exact absurd hend (hrest later hlater)

/-- An inhibitor that always agrees. -/
def willing : Inhibitor Unit where
  acquire _ := pure ()
  release := pure ()

/-- A supervisor of a program on a host where nothing has happened. -/
def lone : Supervised (Host Unit) :=
  freshOn (.fresh "s" default 5) "tcmg:server" () 0

/-- A start of the program, which is found on the search path. -/
def firstTurn : Turn Unit where
  circumstances :=
    { tree := { entries := [(["bin"], .directory), (["bin", "s"], .file [] 0o755)] }
      searchPath := "/bin" }
  clock := 7
  happening := .start none 0

/-- The supervisor as this turn finds it. -/
def facingFirst : Supervised (Host Unit) :=
  lone.facing (firstTurn.host lone.awake.outside)

theorem resolve_first : (serverOf facingFirst).resolve = .ok (some "/bin/s") := by
  have htaken : Failure.ofText? "/bin/s" = none :=
    (Files.ofText?_eq_none _).mpr (by decide +kernel)
  have hfind : (serverOf facingFirst).machine.tree.find [] "/bin/s" = .ok ["bin", "s"] := by
    rw [Files.Tree.find, htaken]
    rfl
  have hplace : (serverOf facingFirst).machine.tree.workingDirectory = [] := rfl
  have hexec : (serverOf facingFirst).machine.tree.isExecutable "/bin/s" = true := by
    rw [Files.Tree.isExecutable, Files.Tree.lookUp, hplace, hfind]
    rfl
  have hletter : "s".contains '/' = false := by simp
  have hname : (serverOf facingFirst).program.contains Files.separator = false := hletter
  have hwhich : (serverOf facingFirst).machine.tree.which
      (serverOf facingFirst).machine.searchPath (serverOf facingFirst).program =
        ["/bin/s"].find? (serverOf facingFirst).machine.tree.isExecutable := rfl
  rw [ChildServer.resolve, hname, hwhich, List.find?_cons_of_pos hexec]
  rfl

/-- The first start of the program launches a process, and the host is kept awake from then on. -/
theorem kept_awake_first :
    let supervised := afterTurns willing (Act.ofExcept (.ok [])) lone [firstTurn]
    (serverOf supervised).machine.isAlive 0 = true ∧
      supervised.awake.token.held = true ∧ supervised.startedAt = some 7 := by
  intro supervised
  have hpossible : ∀ turn ∈ [firstTurn], turn.IsPossible := by
    intro turn h
    rw [List.mem_singleton.mp h]
    exact ⟨fun failure h => (by cases h), fun _ text h => (by cases h), rfl⟩
  have hchild : (ChildServer.start none 0 (serverOf facingFirst)).state =
      (serverOf facingFirst).adopted ["/bin/s"] none Webif.defaultPort :=
    (ChildServer.start_of_found rfl resolve_first rfl rfl rfl rfl rfl).2
  have hend : HostStarts facingFirst 0 _ supervised :=
    hostStarts willing _ facingFirst (fun _ _ => rfl) none 0 (hpossible firstTurn (by simp))
  rw [hchild] at hend
  have hserver : serverOf supervised =
      (serverOf facingFirst).adopted ["/bin/s"] none Webif.defaultPort := by
    generalize supervised = after at hend ⊢
    cases hend with
    | skipped hguard => exact absurd hguard (by decide)
    | failed _ _ _ hjobs =>
      have hsize := congrArg Array.size hjobs
      rw [ChildServer.size_jobs_adopted] at hsize
      omega
    | launched _ hserver => exact hserver
  have hnone : launches facingFirst = 0 := size_jobs_under ..
  have hlaunch : LaunchedAt willing (Act.ofExcept (.ok [])) lone [] firstTurn 0 := by
    refine ⟨rfl, ?_⟩
    rw [List.nil_append, launches, hserver, ChildServer.size_jobs_adopted, ← launches, hnone]
  have halive : (serverOf supervised).machine.isAlive 0 = true := by
    rw [hserver, ← hnone, launches, ChildServer.isAlive_adopted]
    rfl
  exact ⟨halive, (kept_awake willing (Act.ofExcept (.ok [])) (fun _ _ => rfl) "s" default 5
    "tcmg:server" () 0 [firstTurn] hpossible).1 [] firstTurn [] 0 rfl hlaunch (by simp) halive⟩

end Warden.Supervisor
