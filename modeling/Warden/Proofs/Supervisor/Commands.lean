import Warden.Proofs.KeepAwake.Token
import Warden.Supervisor

/-!
# What the commands of a supervisor come to

The supervisor asks its outside world and keeps the token, the open blocks and the start of the
server itself. Here the state after each command is written out, and the ways in which a start ends
are listed.

## Main definitions

* `Supervised.facing`: a supervisor before another outside world
* `closed`: a supervisor whose open blocks were closed
* `Starts`: the ways in which a start ends

## Main results

* `state_closeBlocks`: closing any number of blocks gives the token back at most once
* `starts`: these are all the ways in which a start ends
* `state_stop`: a stop closes the open blocks, whatever the server answers
-/

namespace Warden

/-- A supervisor before another outside world. -/
def Supervised.facing {ε : Type} (supervised : Supervised ε) (outside : ε) : Supervised ε :=
  { supervised with awake := { supervised.awake with outside } }

section Facing

variable {ε : Type} (supervised : Supervised ε) (outside : ε)

@[simp] theorem outside_facing : (supervised.facing outside).awake.outside = outside := rfl

@[simp] theorem token_facing :
    (supervised.facing outside).awake.token = supervised.awake.token := rfl

@[simp] theorem holds_facing : (supervised.facing outside).holds = supervised.holds := rfl

@[simp] theorem startedAt_facing :
    (supervised.facing outside).startedAt = supervised.startedAt := rfl

end Facing

namespace Supervisor

variable {ε α : Type} (around : Surroundings ε) (supervised : Supervised ε)

/-! ## Questions -/

@[simp] theorem run_onToken (act : Act (KeepAwake.Awake ε) α) :
    onToken act supervised =
      ⟨(act supervised.awake).outcome, { supervised with awake := (act supervised.awake).state },
        (act supervised.awake).log⟩ := rfl

@[simp] theorem run_outside (act : Act ε α) :
    outside act supervised =
      ⟨(act supervised.awake.outside).outcome,
        supervised.facing (act supervised.awake.outside).state,
        (act supervised.awake.outside).log⟩ := rfl

/-- A server that cannot be asked counts as not running. -/
theorem outcome_isRunning :
    (isRunning around supervised).outcome =
      match (around.service.isRunning supervised.awake.outside).outcome with
      | .ok running => .ok running
      | .error failure => if Act.isOrdinary failure then .ok false else .error failure := by
  rw [isRunning, Act.outcome_recover, run_outside]
  cases (around.service.isRunning supervised.awake.outside).outcome <;> simp

/-- Asking whether the server runs touches the outside world only. -/
theorem state_isRunning :
    (isRunning around supervised).state =
      supervised.facing (around.service.isRunning supervised.awake.outside).state := by
  rw [isRunning, Act.state_recover, run_outside]
  cases (around.service.isRunning supervised.awake.outside).outcome <;> simp

/-! ## Blocks -/

/-- A supervisor whose token was given back. -/
def released : Supervised ε :=
  { supervised with awake := (KeepAwake.release around.inhibitor supervised.awake).state }

/-- Giving back twice is giving back once. -/
theorem released_released : released around (released around supervised) =
    released around supervised := by
  simp only [released, KeepAwake.state_release]
  by_cases hheld : supervised.awake.token.held <;> simp [hheld]

theorem state_giveBack (blocks : Nat) :
    (giveBack around blocks supervised).state =
      if blocks = 0 then supervised else released around supervised := by
  induction blocks generalizing supervised with
  | zero => rfl
  | succ blocks ih =>
    have hrest : (giveBack around (blocks + 1) supervised).state =
        (giveBack around blocks (released around supervised)).state := by
      rw [giveBack]
      cases hrest : (giveBack around blocks (released around supervised)).outcome <;>
        rw [released] at hrest <;> simp [hrest, released]
    rw [hrest, ih, if_neg (Nat.succ_ne_zero _)]
    -- Only the first time can find the token held.
    split
    · rfl
    · exact released_released around supervised

/-- A supervisor whose open blocks were closed. -/
def closed : Supervised ε :=
  { (if supervised.holds = 0 then supervised else released around supervised) with holds := 0 }

/-- **Closing the open blocks** gives the token back at most once, however many there are. -/
theorem state_closeBlocks :
    (closeBlocks around supervised).state = closed around supervised := by
  have hclose : (closeBlocks around supervised).state =
      (giveBack around supervised.holds { supervised with holds := 0 }).state := rfl
  rw [hclose, state_giveBack, closed]
  split <;> rfl

theorem outcome_openBlock :
    (openBlock around supervised).outcome =
      (KeepAwake.enter around.inhibitor supervised.awake).outcome.map fun _ => () := by
  cases henter : (KeepAwake.enter around.inhibitor supervised.awake).outcome <;>
    simp [openBlock, henter, Except.map]

/-- Opening a block takes the token; the block is open unless entering it failed. -/
theorem state_openBlock :
    (openBlock around supervised).state =
      { supervised with
        awake := (KeepAwake.acquire around.inhibitor supervised.awake).state
        holds := match (KeepAwake.enter around.inhibitor supervised.awake).outcome with
          | .ok _ => supervised.holds + 1
          | .error _ => supervised.holds } := by
  cases henter : (KeepAwake.enter around.inhibitor supervised.awake).outcome <;>
    simp [openBlock, henter, KeepAwake.state_enter, Except.map]

/-! ## Starting -/

/-- A supervisor that asked whether the server runs. -/
def questioned : Supervised ε :=
  supervised.facing (around.service.isRunning supervised.awake.outside).state

/-- A supervisor that opened a block for a start. -/
def opened : Supervised ε :=
  (openBlock around (questioned around supervised)).state

/-- What the server answers to a start for which a block was opened. -/
def answered (directory : Option String) (level : Int) : Report ε Int :=
  around.service.start directory level (opened around supervised).awake.outside

/-- A supervisor that heard this answer. -/
def told (directory : Option String) (level : Int) : Supervised ε :=
  (opened around supervised).facing (answered around supervised directory level).state

/-- A failure to report after the open blocks were closed. -/
def failing (closing : Except Failure Unit) (failure : Failure) : Except Failure Unit :=
  match closing with
  | .ok _ => .error failure
  | .error other => .error other

/-- The ways in which a start ends: with an outcome, and with the supervisor as it is afterwards. -/
inductive Starts (directory : Option String) (level : Int) :
    Except Failure Unit → Supervised ε → Prop
  /-- There is no such debug level. -/
  | refused (hlevel : isDebugLevel level = false) :
      Starts directory level (.error (.debugLevel level)) supervised
  /-- Asking the server is interrupted. -/
  | unquestioned (failure : Failure) (hlevel : isDebugLevel level)
      (hrunning : (isRunning around supervised).outcome = .error failure) :
      Starts directory level (.error failure) (questioned around supervised)
  /-- The server runs already. -/
  | running (hlevel : isDebugLevel level)
      (hrunning : (isRunning around supervised).outcome = .ok true) :
      Starts directory level (.ok ()) (questioned around supervised)
  /-- No block is opened. -/
  | unopened (failure : Failure) (hlevel : isDebugLevel level)
      (hrunning : (isRunning around supervised).outcome = .ok false)
      (hopen : (openBlock around (questioned around supervised)).outcome = .error failure) :
      Starts directory level (.error failure) (opened around supervised)
  /-- The start is interrupted. -/
  | interrupted (failure : Failure) (hlevel : isDebugLevel level)
      (hrunning : (isRunning around supervised).outcome = .ok false)
      (hopen : (openBlock around (questioned around supervised)).outcome = .ok ())
      (hanswer : (answered around supervised directory level).outcome = .error failure)
      (hordinary : Act.isOrdinary failure = false) :
      Starts directory level (.error failure) (told around supervised directory level)
  /-- The server fails to start. -/
  | failed (failure : Failure) (hlevel : isDebugLevel level)
      (hrunning : (isRunning around supervised).outcome = .ok false)
      (hopen : (openBlock around (questioned around supervised)).outcome = .ok ())
      (hanswer : (answered around supervised directory level).outcome = .error failure)
      (hordinary : Act.isOrdinary failure) :
      Starts directory level
        (failing (closeBlocks around (told around supervised directory level)).outcome failure)
        (closed around (told around supervised directory level))
  /-- The server answers a code that is not zero. -/
  | declined (code : Int) (hlevel : isDebugLevel level)
      (hrunning : (isRunning around supervised).outcome = .ok false)
      (hopen : (openBlock around (questioned around supervised)).outcome = .ok ())
      (hanswer : (answered around supervised directory level).outcome = .ok code)
      (hcode : code ≠ 0) :
      Starts directory level
        (failing (closeBlocks around (told around supervised directory level)).outcome
          (.ofStartCode code))
        (closed around (told around supervised directory level))
  /-- The server starts. -/
  | started (hlevel : isDebugLevel level)
      (hrunning : (isRunning around supervised).outcome = .ok false)
      (hopen : (openBlock around (questioned around supervised)).outcome = .ok ())
      (hanswer : (answered around supervised directory level).outcome = .ok 0) :
      Starts directory level (.ok ())
        { told around supervised directory level with
          startedAt := some (around.clock (answered around supervised directory level).state) }

/-- Asking the server for a start, once a block is open. -/
theorem starts_of_launch (directory : Option String) (level : Int) (hlevel : isDebugLevel level)
    (hrunning : (isRunning around supervised).outcome = .ok false)
    (hopen : (openBlock around (questioned around supervised)).outcome = .ok ()) :
    Starts around supervised directory level
      (launch around directory level (opened around supervised)).outcome
      (launch around directory level (opened around supervised)).state := by
  have hfold : around.service.start directory level (opened around supervised).awake.outside =
      answered around supervised directory level := rfl
  have htold : (opened around supervised).facing
      (answered around supervised directory level).state =
        told around supervised directory level := rfl
  cases hanswer : (answered around supervised directory level).outcome with
  | error failure =>
    by_cases hordinary : Act.isOrdinary failure
    · have hend : Starts around supervised directory level _ _ :=
        .failed failure hlevel hrunning hopen hanswer hordinary
      cases hclose : (closeBlocks around (told around supervised directory level)).outcome <;>
        simpa [launch, hfold, hanswer, htold, hordinary, hclose, failing, state_closeBlocks]
          using hend
    · have hend : Starts around supervised directory level _ _ :=
        .interrupted failure hlevel hrunning hopen hanswer (by simpa using hordinary)
      simpa [launch, hfold, hanswer, htold, hordinary] using hend
  | ok code =>
    by_cases hcode : code = 0
    · subst hcode
      have hend : Starts around supervised directory level _ _ :=
        .started hlevel hrunning hopen hanswer
      simpa [launch, hfold, hanswer, now, told] using hend
    · have hend : Starts around supervised directory level _ _ :=
        .declined code hlevel hrunning hopen hanswer hcode
      cases hclose : (closeBlocks around (told around supervised directory level)).outcome <;>
        simpa [launch, hfold, hanswer, htold, hcode, hclose, failing, state_closeBlocks]
          using hend

/-- **A start** ends in one of these ways. -/
theorem starts (directory : Option String) (level : Int) :
    Starts around supervised directory level (start around directory level supervised).outcome
      (start around directory level supervised).state := by
  by_cases hlevel : isDebugLevel level
  · cases hrunning : (isRunning around supervised).outcome with
    | error failure =>
      have hend : Starts around supervised directory level _ _ :=
        .unquestioned failure hlevel hrunning
      simpa [start, hlevel, hrunning, state_isRunning, questioned] using hend
    | ok running =>
      cases running with
      | true =>
        have hend : Starts around supervised directory level _ _ := .running hlevel hrunning
        simpa [start, hlevel, hrunning, state_isRunning, questioned] using hend
      | false =>
        have hfold : (openBlock around (questioned around supervised)).state =
            opened around supervised := rfl
        cases hopen : (openBlock around (questioned around supervised)).outcome with
        | error failure =>
          have hend : Starts around supervised directory level _ _ :=
            .unopened failure hlevel hrunning hopen
          rw [questioned] at hopen hfold
          simpa [start, hlevel, hrunning, state_isRunning, hopen, hfold] using hend
        | ok _ =>
          have hend := starts_of_launch around supervised directory level hlevel hrunning hopen
          rw [questioned] at hopen hfold
          simpa [start, hlevel, hrunning, state_isRunning, hopen, hfold] using hend
  · have hend : Starts around supervised directory level _ _ := .refused (by simpa using hlevel)
    simpa [start, hlevel] using hend

/-! ## Stopping -/

/-- The server is asked to stop if it runs. -/
theorem state_halt :
    (halt around supervised).state =
      match (isRunning around supervised).outcome with
      | .ok true =>
        (questioned around supervised).facing
          (around.service.stop (questioned around supervised).awake.outside).state
      | _ => questioned around supervised := by
  cases hrunning : (isRunning around supervised).outcome with
  | error failure => simp [halt, hrunning, state_isRunning, questioned]
  | ok running =>
    cases running <;> simp [halt, hrunning, state_isRunning, questioned]

/-- **A stop** closes the open blocks and forgets the start, whatever the server answers. -/
theorem state_stop :
    (stop around supervised).state =
      closed around { (halt around supervised).state with startedAt := none } := by
  rw [stop, Act.state_always, forget, Act.state_bind]
  exact state_closeBlocks around _

end Supervisor

end Warden
