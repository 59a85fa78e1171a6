import Mathlib.Data.List.Induction
import Mathlib.Tactic.Common
import Warden.CommandLine.Launch
import Warden.Proofs.Files.Taken
import Warden.Proofs.Log.SetUp
import Warden.Supervisor

/-!
# The command line goes before the environment

Options with a value and flags are given in any order and any number. What counts of an option is the
value that is given last, and of a flag how often it is given, so that options of different kinds may
change places. What is not given is left to the environment. A value that its option does not take
ends the commander before anything is changed.

## Main definitions

* `Given`: an option with its value, or a flag
* `Given.IsSound`: the value is one that its option takes
* `last`, `countOf`: what counts of an option and of a flag
* `Orders.asked`: the orders that are asked for
* `SameByOption`: the same is given, with different options in another order

## Main results

* `classify_words`, `scan_tokens`: the words that are given are read one after the other
* `take_ofGiven`: one more occurrence is taken or is misuse
* `request_ofWords`: a command line comes to the request of the last occurrences, or is misuse
* `orders_ofGiven`: that request comes to the orders that are asked for
* `launch_eq`: the commander sets up logging and serves its pages
* `command_line_first`: what a command line comes to
-/

namespace Warden.CommandLine

/-! ## Words that are given -/

/-- The options that take a value. -/
inductive Valued where
  | host
  | port
  | serverProgram
  | configDirectory
  | debugLevel
  | logLevel
  deriving DecidableEq

/-- The options that take none. -/
inductive Flag where
  | verbose
  | quiet
  | autoStart
  deriving DecidableEq

/-- What is given on a command line: an option and its value, which does not start with a dash, or a
flag. -/
inductive Given where
  | value (option : Valued) (text : String) (plain : text.toList.head? ≠ some '-')
  | switch (flag : Flag)

namespace Valued

/-- The full name of an option. -/
def name : Valued → String
  | host => "--host"
  | port => "--port"
  | serverProgram => "--server-bin"
  | configDirectory => "--config-dir"
  | debugLevel => "--debug-level"
  | logLevel => "--log-level"

/-- The option among those of the commander. -/
def choice (option : Valued) : Choice Key where
  key := match option with
    | host => .host
    | port => .port
    | serverProgram => .serverProgram
    | configDirectory => .configDirectory
    | debugLevel => .debugLevel
    | logLevel => .logLevel
  names := [option.name]
  takesValue := true

end Valued

namespace Flag

/-- The name of a flag. -/
def name : Flag → String
  | verbose => "-v"
  | quiet => "-q"
  | autoStart => "--auto-start"

/-- The flag among the options of the commander. -/
def choice : Flag → Choice Key
  | verbose => ⟨.verbose, ["-v", "--verbose"], false⟩
  | quiet => ⟨.quiet, ["-q", "--quiet"], false⟩
  | autoStart => ⟨.autoStart, ["--auto-start"], false⟩

end Flag

namespace Given

/-- The words on the command line. -/
def words : Given → List String
  | value option text _ => [option.name, text]
  | switch flag => [flag.name]

/-- What these words are. -/
def tokens : Given → List (Word Key)
  | value option text _ => [.option ⟨option.choice, option.name, none⟩, .plain text]
  | switch flag => [.option ⟨flag.choice, flag.name, none⟩]

end Given

theorem ofText_valued (option : Valued) :
    Word.ofText choices option.name = .ok (.option ⟨option.choice, option.name, none⟩) := by
  cases option <;> rfl

theorem ofText_flag (flag : Flag) :
    Word.ofText choices flag.name = .ok (.option ⟨flag.choice, flag.name, none⟩) := by
  cases flag <;> rfl

theorem ofText_plain {text : String} (hplain : text.toList.head? ≠ some '-') :
    Word.ofText choices text = .ok (.plain text) := by
  rw [Word.ofText]
  split
  · next heq => simp [heq] at hplain
  · rfl

/-- The request with one more given option. -/
def Request.take (request : Request) : Given → Except Exit Request
  | .value option text _ => request.apply option.choice (some text)
  | .switch flag => request.apply flag.choice none

theorem classify_words (given : List Given) :
    classify choices (given.flatMap Given.words) = .ok (given.flatMap Given.tokens) := by
  induction given with
  | nil => rfl
  | cons first rest ih =>
    cases first with
    | value option text hplain =>
      have hname : (option.name == dashes) = false := by cases option <;> rfl
      have htext : (text == dashes) = false := by
        rw [beq_eq_false_iff_ne]
        rintro rfl
        exact hplain rfl
      simp only [List.flatMap_cons, Given.words, Given.tokens, List.cons_append, List.nil_append,
        classify, hname, htext, ofText_valued, ofText_plain hplain, ih]
      rfl
    | switch flag =>
      have hname : (flag.name == dashes) = false := by cases flag <;> rfl
      simp only [List.flatMap_cons, Given.words, Given.tokens, List.cons_append, List.nil_append,
        classify, hname, ofText_flag, ih]
      rfl

theorem scan_valued (request : Request) (option : Valued) (text : String) (rest : List (Word Key)) :
    scan choices Request.apply request
        (.option ⟨option.choice, option.name, none⟩ :: .plain text :: rest) =
      request.apply option.choice (some text) >>= fun after =>
        scan choices Request.apply after rest := by
  rw [scan]
  rfl

theorem scan_flag (request : Request) (flag : Flag) (rest : List (Word Key)) :
    scan choices Request.apply request (.option ⟨flag.choice, flag.name, none⟩ :: rest) =
      request.apply flag.choice none >>= fun after =>
        scan choices Request.apply after rest := by
  rw [scan]
  cases flag <;> rfl

theorem scan_tokens (given : List Given) (request : Request) :
    scan choices Request.apply request (given.flatMap Given.tokens) =
      given.foldlM Request.take request := by
  induction given generalizing request with
  | nil => rfl
  | cons first rest ih =>
    rw [List.flatMap_cons, List.foldlM_cons]
    cases first with
    | value option text hplain =>
      rw [Given.tokens, List.cons_append, List.cons_append, List.nil_append, scan_valued]
      simp only [ih, Request.take]
    | switch flag =>
      rw [Given.tokens, List.cons_append, List.nil_append, scan_flag]
      simp only [ih, Request.take]

theorem ofWords_given (given : List Given) :
    Request.ofWords (given.flatMap Given.words) = given.foldlM Request.take {} := by
  rw [Request.ofWords, parse, classify_words]
  exact scan_tokens given {}

/-! ## What the last occurrences ask for -/

/-- The value that is given for an option. -/
def Given.value? (option : Valued) : Given → Option String
  | .value other text _ => if other = option then some text else none
  | .switch _ => none

/-- A flag is given. -/
def Given.isFlag (flag : Flag) : Given → Bool
  | .value .. => false
  | .switch other => other = flag

/-- The value that is given last for an option. -/
def last (option : Valued) (given : List Given) : Option String :=
  (given.filterMap (Given.value? option)).getLast?

/-- How often a flag is given. -/
def countOf (flag : Flag) (given : List Given) : Nat :=
  given.countP (Given.isFlag flag)

/-- The integer that a text denotes. -/
def integer? (text : String) : Option Int :=
  (Numeric.Literal.readDecimal text).toOption

/-- The value is one that its option takes: an integer for a port, one from 0 to 9 for a debug level,
and one of six names for a level of logging. -/
def Given.IsSound : Given → Prop
  | .value .port text _ => ∃ n, Numeric.Literal.readDecimal text = .ok n
  | .value .debugLevel text _ => ∃ n, Numeric.Literal.readDecimal text = .ok n ∧ 0 ≤ n ∧ n ≤ 9
  | .value .logLevel text _ =>
    text ∈ ["TRACE", "DEBUG", "INFO", "WARNING", "ERROR", "CRITICAL"]
  | _ => True

section Last

variable (given : List Given) (option : Valued) (flag : Flag)

@[simp] theorem last_nil : last option [] = none := rfl

@[simp] theorem last_value (other : Valued) (text : String) (hplain) :
    last option (given ++ [.value other text hplain]) =
      if other = option then some text else last option given := by
  by_cases hoption : other = option <;> simp [last, Given.value?, hoption]

@[simp] theorem last_switch (other : Flag) :
    last option (given ++ [.switch other]) = last option given := by
  simp [last, Given.value?]

@[simp] theorem countOf_nil : countOf flag [] = 0 := rfl

@[simp] theorem countOf_value (other : Valued) (text : String) (hplain) :
    countOf flag (given ++ [.value other text hplain]) = countOf flag given := by
  simp [countOf, Given.isFlag]

@[simp] theorem countOf_switch (other : Flag) :
    countOf flag (given ++ [.switch other]) =
      countOf flag given + if other = flag then 1 else 0 := by
  by_cases hflag : other = flag <;> simp [countOf, Given.isFlag, hflag]

end Last

/-- The request of the last occurrences. -/
def Request.ofGiven (given : List Given) : Request where
  host := (last .host given).map some
  port := (last .port given).map integer?
  serverProgram := (last .serverProgram given).map some
  configDirectory := (last .configDirectory given).map some
  debugLevel := (last .debugLevel given).map integer?
  logLevel := (last .logLevel given).map Log.Level.named?
  verbosity := countOf .verbose given
  quiet := 0 < countOf .quiet given
  autoStart := 0 < countOf .autoStart given

theorem mem_debugLevels {n : Int} : n ∈ debugLevels ↔ 0 ≤ n ∧ n ≤ 9 := by
  simp only [debugLevels, List.mem_map, List.mem_range, Failure.lowestDebugLevel]
  constructor
  · rintro ⟨k, hk, rfl⟩
    omega
  · rintro ⟨hlow, hhigh⟩
    exact ⟨n.toNat, by omega, by omega⟩

theorem named?_isSome_iff {text : String} : (Log.Level.named? text).isSome ↔
    text ∈ ["TRACE", "DEBUG", "INFO", "WARNING", "ERROR", "CRITICAL"] := by
  simp only [Log.Level.named?, Option.isSome_map, List.find?_isSome, beq_iff_eq]
  simp [Log.Level.selectable, eq_comm]

/-- **An option whose value is read** is in the request with the value, once that is read. -/
theorem take_read {α : Type} {request : Request} {option : Valued} {text : String} {hplain}
    (read : String → Except Exit α) (put : Option α → Request)
    (htake : request.take (.value option text hplain) =
      ((some text).mapM read >>= fun value => return put value)) :
    request.take (.value option text hplain) = (read text).map fun value => put (some value) := by
  rw [htake, Option.mapM_some]
  cases read text <;> rfl

section Read

variable (choice : Choice Key) (text : String)

/-- An integer is read; what is none is misuse. -/
theorem integerOf_eq :
    (∃ n, Numeric.Literal.readDecimal text = .ok n ∧ integerOf choice text = .ok n) ∨
    (¬ ∃ n, Numeric.Literal.readDecimal text = .ok n) ∧
      ∃ message, integerOf choice text = .error (.misuse message) := by
  cases hread : Numeric.Literal.readDecimal text with
  | ok n => exact .inl ⟨n, rfl, by rw [integerOf, hread]⟩
  | error fault => exact .inr ⟨nofun, _, by rw [integerOf, hread]; rfl⟩

/-- A debug level is read; what is none is misuse. -/
theorem debugLevelOf_eq :
    (∃ n, (Numeric.Literal.readDecimal text = .ok n ∧ 0 ≤ n ∧ n ≤ 9) ∧
      debugLevelOf choice text = .ok n) ∨
    (¬ ∃ n, Numeric.Literal.readDecimal text = .ok n ∧ 0 ≤ n ∧ n ≤ 9) ∧
      ∃ message, debugLevelOf choice text = .error (.misuse message) := by
  have hrun : debugLevelOf choice text = integerOf choice text >>= fun n =>
      if debugLevels.contains n then .ok n
      else .error (notAmong choice (toString n) (debugLevels.map toString)) := rfl
  rcases integerOf_eq choice text with ⟨n, hn, hread⟩ | ⟨hnone, message, hread⟩
  · rw [hrun, hread]
    by_cases hrange : 0 ≤ n ∧ n ≤ 9
    · have hmem : debugLevels.contains n = true := by simpa [mem_debugLevels] using hrange
      exact .inl ⟨n, ⟨hn, hrange⟩, if_pos hmem⟩
    · have hmem : ¬ debugLevels.contains n = true := by simpa [mem_debugLevels] using hrange
      refine .inr ⟨?_, _, if_neg hmem⟩
      rintro ⟨m, hm, hlevel⟩
      obtain rfl : n = m := Except.ok.inj (hn.symm.trans hm)
      exact hrange hlevel
  · refine .inr ⟨fun ⟨n, hn, _⟩ => hnone ⟨n, hn⟩, message, ?_⟩
    rw [hrun, hread]
    rfl

/-- A level of logging is read; what is none is misuse. -/
theorem logLevelOf_eq :
    (∃ level, Log.Level.named? text = some level ∧ logLevelOf choice text = .ok level) ∨
    Log.Level.named? text = none ∧
      ∃ message, logLevelOf choice text = .error (.misuse message) := by
  cases hname : Log.Level.named? text with
  | some level => exact .inl ⟨level, rfl, by rw [logLevelOf, hname]⟩
  | none => exact .inr ⟨rfl, _, by rw [logLevelOf, hname]; rfl⟩

end Read

/-- **One more occurrence** takes the place of what was given before for its option, if it is sound;
otherwise it is misuse. -/
theorem take_ofGiven (given : List Given) (next : Given) :
    next.IsSound ∧ (Request.ofGiven given).take next = .ok (Request.ofGiven (given ++ [next])) ∨
    ¬ next.IsSound ∧ ∃ message, (Request.ofGiven given).take next = .error (.misuse message) := by
  cases next with
  | switch flag =>
    left
    cases flag <;> simp [Given.IsSound, Request.take, Flag.choice, Request.apply,
      Request.ofGiven, pure, Except.pure]
  | value option text hplain =>
    cases option with
    | host | serverProgram | configDirectory =>
      left
      simp [Given.IsSound, Request.take, Valued.choice, Request.apply, Request.ofGiven, pure,
        Except.pure]
    | port =>
      have htake := take_read (integerOf Valued.port.choice)
        (fun port => { Request.ofGiven given with port := some port }) (Eq.refl
          ((Request.ofGiven given).take (.value .port text hplain)))
      rcases integerOf_eq Valued.port.choice text with ⟨n, hn, hread⟩ | ⟨hnone, message, hread⟩
      · refine .inl ⟨⟨n, hn⟩, ?_⟩
        rw [htake, hread]
        simp [Request.ofGiven, integer?, hn, Except.toOption, Except.map]
      · exact .inr ⟨hnone, message, by rw [htake, hread]; rfl⟩
    | debugLevel =>
      have htake := take_read (debugLevelOf Valued.debugLevel.choice)
        (fun level => { Request.ofGiven given with debugLevel := some level }) (Eq.refl
          ((Request.ofGiven given).take (.value .debugLevel text hplain)))
      rcases debugLevelOf_eq Valued.debugLevel.choice text with
        ⟨n, hn, hread⟩ | ⟨hnone, message, hread⟩
      · refine .inl ⟨⟨n, hn⟩, ?_⟩
        rw [htake, hread]
        simp [Request.ofGiven, integer?, hn.1, Except.toOption, Except.map]
      · exact .inr ⟨hnone, message, by rw [htake, hread]; rfl⟩
    | logLevel =>
      have htake := take_read (logLevelOf Valued.logLevel.choice)
        (fun level => { Request.ofGiven given with logLevel := some level }) (Eq.refl
          ((Request.ofGiven given).take (.value .logLevel text hplain)))
      have hsound : (Given.value .logLevel text hplain).IsSound ↔ (Log.Level.named? text).isSome :=
        named?_isSome_iff.symm
      rcases logLevelOf_eq Valued.logLevel.choice text with
        ⟨level, hlevel, hread⟩ | ⟨hnone, message, hread⟩
      · refine .inl ⟨hsound.mpr (by rw [hlevel]; rfl), ?_⟩
        rw [htake, hread]
        simp [Request.ofGiven, hlevel, Except.map]
      · refine .inr ⟨fun h => ?_, message, by rw [htake, hread]; rfl⟩
        simpa [hnone] using hsound.mp h

/-- **What is given** comes to the request of the last occurrences, if all of it is sound; otherwise
it is misuse. -/
theorem request_ofWords (given : List Given) :
    (∀ next ∈ given, next.IsSound) ∧
      Request.ofWords (given.flatMap Given.words) = .ok (Request.ofGiven given) ∨
    ¬ (∀ next ∈ given, next.IsSound) ∧
      ∃ message, Request.ofWords (given.flatMap Given.words) = .error (.misuse message) := by
  simp only [ofWords_given]
  induction given using List.reverseRecOn with
  | nil => exact .inl ⟨nofun, rfl⟩
  | append_singleton given next ih =>
    rw [List.foldlM_append]
    rcases ih with ⟨hsound, hgiven⟩ | ⟨hunsound, message, hgiven⟩ <;> rw [hgiven]
    · rcases take_ofGiven given next with ⟨hnext, htake⟩ | ⟨hnext, message, htake⟩
      · refine .inl ⟨?_, ?_⟩
        · simpa [or_imp, forall_and] using And.intro hsound hnext
        · simp only [List.foldlM_cons, List.foldlM_nil, bind_pure]
          exact htake
      · refine .inr ⟨fun hall => hnext (hall next (by simp)), message, ?_⟩
        simp only [List.foldlM_cons, List.foldlM_nil, bind_pure]
        exact htake
    · exact .inr ⟨fun hall => hunsound fun other hother => hall other (by simp [hother]), message,
        rfl⟩

/-! ## The orders -/

/-- The level of logging that is asked for: the one that is named last, else the one for the number
of times that more talk is asked for, else warnings when quiet is asked for, else that of the
settings. -/
def levelAsked (settings : Settings) (given : List Given) : Log.Level :=
  match (last .logLevel given).bind Log.Level.named? with
  | some level => level
  | none =>
    match countOf .verbose given with
    | 0 => if 0 < countOf .quiet given then .warning else settings.logLevel
    | 1 => .info
    | 2 => .debug
    | _ => .trace

/-- The orders that are asked for: for each option the value that is given last, else the one of the
settings. An empty configuration directory is none. -/
def Orders.asked (settings : Settings) (given : List Given) : Orders where
  serverProgram := some ((last .serverProgram given).getD settings.serverProgram)
  configDirectory :=
    (last .configDirectory given).elim settings.configDirectory Text.nonEmpty?
  debugLevel := some (((last .debugLevel given).bind integer?).getD settings.debugLevel)
  autoStart := settings.autoStart || 0 < countOf .autoStart given
  host := some ((last .host given).getD settings.host)
  port := ((last .port given).bind integer?).getD settings.port
  logLevel := levelAsked settings given

theorem mem_of_last {option : Valued} {given : List Given} {text : String}
    (hlast : last option given = some text) : ∃ hplain, .value option text hplain ∈ given := by
  obtain ⟨next, hnext, hvalue⟩ := List.mem_filterMap.mp (List.mem_of_getLast? hlast)
  cases next with
  | value other shown hplain =>
    simp only [Given.value?] at hvalue
    split_ifs at hvalue with hoption
    subst hoption
    obtain rfl := Option.some.inj hvalue
    exact ⟨hplain, hnext⟩
  | switch => cases hvalue

theorem isDebugLevel_iff {level : Int} : Supervisor.isDebugLevel level ↔ 0 ≤ level ∧ level ≤ 9 := by
  rw [Supervisor.isDebugLevel, Bool.and_eq_true]
  exact and_congr decide_eq_true_iff decide_eq_true_iff

/-- An environment asks for a debug level that the server has. -/
theorem isDebugLevel_debugLevelOf (word : Option String) :
    Supervisor.isDebugLevel (Settings.debugLevelOf word) := by
  have hrange (level : Int) : Supervisor.isDebugLevel (Settings.clampDebugLevel level) := by
    rw [isDebugLevel_iff, Settings.clampDebugLevel, Failure.lowestDebugLevel,
      Failure.highestDebugLevel]
    omega
  rw [Settings.debugLevelOf]
  split
  · exact hrange _
  · decide

theorem bind_nonEmpty? (text : String) :
    (Text.nonEmpty? text).bind Text.nonEmpty? = Text.nonEmpty? text := by
  by_cases htext : text.isEmpty <;> simp [Text.nonEmpty?, htext]

/-- The settings of an environment have a debug level that the server has, and no empty
configuration directory. -/
theorem ofEnvironment_eq {directory : String} {environment : Environment} {settings : Settings}
    (hsettings : Settings.ofEnvironment directory environment = .ok settings) :
    Supervisor.isDebugLevel settings.debugLevel ∧
      settings.configDirectory.bind Text.nonEmpty? = settings.configDirectory := by
  simp only [Settings.ofEnvironment] at hsettings
  split at hsettings
  · cases hsettings
  · split at hsettings
    · obtain rfl := Except.ok.inj hsettings
      exact ⟨isDebugLevel_debugLevelOf _, bind_nonEmpty? _⟩
    · split at hsettings
      · obtain rfl := Except.ok.inj hsettings
        exact ⟨isDebugLevel_debugLevelOf _, bind_nonEmpty? _⟩
      · cases hsettings

/-- A value that is given last was given. -/
theorem sound_of_last {option : Valued} {given : List Given} {text : String}
    (hsound : ∀ next ∈ given, next.IsSound) (hlast : last option given = some text) :
    ∃ hplain, (Given.value option text hplain).IsSound := by
  obtain ⟨hplain, hmem⟩ := mem_of_last hlast
  exact ⟨hplain, hsound _ hmem⟩

theorem level?_ofGiven (settings : Settings) (given : List Given) :
    (Request.ofGiven given).level?.getD settings.logLevel = levelAsked settings given := by
  have hjoin : (Request.ofGiven given).logLevel.join =
      (last .logLevel given).bind Log.Level.named? := by
    cases hlast : last .logLevel given <;> simp [Request.ofGiven, hlast]
  rw [Request.level?, levelAsked, hjoin]
  cases (last .logLevel given).bind Log.Level.named? with
  | some level => rfl
  | none =>
    simp only [Request.ofGiven, decide_eq_true_eq]
    match countOf .verbose given with
    | 0 => split_ifs <;> rfl
    | 1 | 2 => rfl
    | _ + 3 => rfl

theorem orders_ofGiven {directory : String} {environment : Environment} {settings : Settings}
    (hsettings : Settings.ofEnvironment directory environment = .ok settings) {given : List Given}
    (hsound : ∀ next ∈ given, next.IsSound) :
    (Request.ofGiven given).orders (.ofSettings settings) = .ok (.asked settings given) := by
  have hport : (Request.ofGiven given).portOr settings.port =
      .ok (((last .port given).bind integer?).getD settings.port) := by
    cases hlast : last .port given with
    | none => simp [Request.portOr, Request.ofGiven, hlast]
    | some text =>
      obtain ⟨-, n, hn⟩ := sound_of_last hsound hlast
      simp [Request.portOr, Request.ofGiven, hlast, integer?, hn, Except.toOption]
  have hlevel : (Request.ofGiven given).debugLevel.getD (some settings.debugLevel) =
      some (((last .debugLevel given).bind integer?).getD settings.debugLevel) := by
    cases hlast : last .debugLevel given with
    | none => simp [Request.ofGiven, hlast]
    | some text =>
      obtain ⟨-, n, hn, -⟩ := sound_of_last hsound hlast
      simp [Request.ofGiven, hlast, integer?, hn, Except.toOption]
  have hdirectory : ((Request.ofGiven given).configDirectory.getD settings.configDirectory).bind
      Text.nonEmpty? = (last .configDirectory given).elim settings.configDirectory
        Text.nonEmpty? := by
    cases hlast : last .configDirectory given with
    | none => simpa [Request.ofGiven, hlast] using (ofEnvironment_eq hsettings).2
    | some text => simp [Request.ofGiven, hlast]
  have hhost : (Request.ofGiven given).host.getD (some settings.host) =
      some ((last .host given).getD settings.host) := by
    cases hlast : last .host given <;> simp [Request.ofGiven, hlast]
  have hprogram : (Request.ofGiven given).serverProgram.getD (some settings.serverProgram) =
      some ((last .serverProgram given).getD settings.serverProgram) := by
    cases hlast : last .serverProgram given <;> simp [Request.ofGiven, hlast]
  have hstart : ((Request.ofGiven given).autoStart || settings.autoStart) =
      (settings.autoStart || decide (0 < countOf .autoStart given)) := Bool.or_comm _ _
  simp only [Request.orders, Orders.ofSettings, hport, hlevel, hdirectory, hhost, hprogram, hstart,
    level?_ofGiven, Orders.asked]
  rfl

/-! ## The commander -/

/-- Without a panel, entries are logged without a failure, and the level of the root logger stays. -/
theorem keeps_level_log (level : Log.Level) {entry : Log.Entry} {label : String}
    (hlabel : entry.level.label = .ok label) :
    Act.Keeps (fun desk : Log.Desk => desk.root.level = level ∧ desk.panels.attached = [])
      (fun _ => False) (Log.Desk.log entry) := by
  refine Log.Desk.keeps_log (by simp [hlabel]) (fun _ _ hdesk => hdesk) ?_
  have hrun (desk : Log.Desk) (hattached : desk.panels.attached = []) :
      Log.Desk.emit entry desk = ⟨.ok (), desk, []⟩ := by
    have hpanels : desk.panels.emit entry = .ok desk.panels := by
      rw [Log.Panels.emit, hattached]
      rfl
    rw [Log.Desk.run_emit, hpanels]
    rfl
  refine ⟨fun desk hdesk => ?_, fun desk failure hdesk hfailure => ?_⟩
  · rwa [hrun desk hdesk.2]
  · rw [hrun desk hdesk.2] at hfailure
    cases hfailure

/-- The commander with its orders sets up logging at their level, and serves its pages. -/
theorem launch_eq (orders : Orders) (moment : Int) {desk : Log.Desk}
    (hpanels : desk.panels.attached = []) :
    (launch orders moment desk).outcome = .ok { host := orders.host, port := orders.port } ∧
      (launch orders moment desk).state.root.level = orders.logLevel := by
  have hlabel : Log.Level.info.label = .ok "INFO" := rfl
  have hlaunch : Act.Yields (fun desk : Log.Desk => desk.panels.attached = [])
      (launch orders moment) (fun serving desk =>
        serving = { host := orders.host, port := orders.port } ∧
          desk.root.level = orders.logLevel) := by
    refine Act.Yields.bind (Q := fun _ desk =>
      desk.root.level = orders.logLevel ∧ desk.panels.attached = [])
      (fun desk hdesk => ⟨(), rfl, rfl, hdesk⟩) fun _ => ?_
    refine (keeps_level_log orders.logLevel hlabel).yields.bind fun _ => ?_
    refine (keeps_level_log orders.logLevel hlabel).yields.bind fun _ => ?_
    exact .pure fun desk hdesk => ⟨rfl, hdesk.1⟩
  obtain ⟨serving, houtcome, hserving, hlevel⟩ := hlaunch desk hpanels
  exact ⟨hserving ▸ houtcome, hlevel⟩

/-- A wrong command line changes nothing. -/
theorem run_of_exit {words : List String} {exit : Exit} (hwords : Request.ofWords words = .error exit)
    (moment : Int) (commander : Commander) :
    run words moment commander = ⟨.ok (.error exit), commander, []⟩ := by
  rw [run, hwords]
  rfl

/-- The host that is asked for may be taken over first. -/
theorem orders_host (request : Request) (before : Orders) :
    request.orders { before with host := request.host.getD before.host } =
      request.orders before := by
  have hhost : request.host.getD (request.host.getD before.host) =
      request.host.getD before.host := by
    cases request.host <;> rfl
  simp only [Request.orders, hhost]

/-- The commander takes over the orders of its command line. -/
theorem run_of_orders {words : List String} {request : Request} {commander : Commander}
    {orders : Orders} (hwords : Request.ofWords words = .ok request)
    (horders : request.orders commander.orders = .ok orders)
    (hpanels : commander.desk.panels.attached = []) (moment : Int) :
    (run words moment commander).outcome =
        .ok (.ok { host := orders.host, port := orders.port }) ∧
      (run words moment commander).state.orders = orders ∧
      (run words moment commander).state.serverProgram = orders.serverProgram ∧
      (run words moment commander).state.desk.root.level = orders.logLevel := by
  obtain ⟨houtcome, hlevel⟩ := launch_eq orders moment hpanels
  have hsame := orders_host request commander.orders
  rw [run, hwords]
  simp [hsame, horders, houtcome, hlevel]

/-- The commander with the settings of its environment reads what is given on its command line. -/
def runGiven (settings : Settings) (desk : Log.Desk) (given : List Given) (moment : Int) :
    Report Commander (Except Exit Serving) :=
  run (given.flatMap Given.words) moment (.ofSettings settings desk)

/-! ## The order in which options are given -/

/-- The option that is given. -/
def Given.key : Given → Key
  | .value option _ _ => option.choice.key
  | .switch flag => flag.choice.key

/-- Each option is given the same values in the same order. -/
def SameByOption (given other : List Given) : Prop :=
  ∀ key, given.filter (·.key = key) = other.filter (·.key = key)

namespace SameByOption

variable {given other : List Given}

theorem mem_iff (hsame : SameByOption given other) {next : Given} : next ∈ given ↔ next ∈ other := by
  have hfilter (all : List Given) : next ∈ all ↔ next ∈ all.filter (·.key = next.key) := by simp
  rw [hfilter given, hsame, ← hfilter other]

theorem last_eq (hsame : SameByOption given other) (option : Valued) :
    last option given = last option other := by
  have hkey (next : Given) : Given.value? option next =
      if next.key = option.choice.key then Given.value? option next else none := by
    cases next with
    | value shown => cases shown <;> cases option <;> rfl
    | switch => split_ifs <;> rfl
  have hfilter (all : List Given) : all.filterMap (Given.value? option) =
      (all.filter (·.key = option.choice.key)).filterMap (Given.value? option) := by
    rw [List.filterMap_filter]
    simp only [decide_eq_true_eq, ← hkey]
  rw [last, last, hfilter given, hsame, ← hfilter other]

theorem countOf_eq (hsame : SameByOption given other) (flag : Flag) :
    countOf flag given = countOf flag other := by
  have hkey (next : Given) : Given.isFlag flag next =
      (Given.isFlag flag next && decide (next.key = flag.choice.key)) := by
    cases next with
    | value => rfl
    | switch shown => cases shown <;> cases flag <;> rfl
  have hfilter (all : List Given) : all.countP (Given.isFlag flag) =
      (all.filter (·.key = flag.choice.key)).countP (Given.isFlag flag) := by
    rw [List.countP_filter]
    simp only [← hkey]
  rw [countOf, countOf, hfilter given, hsame, ← hfilter other]

theorem ofGiven_eq (hsame : SameByOption given other) :
    Request.ofGiven given = Request.ofGiven other := by
  simp only [Request.ofGiven, hsame.last_eq, hsame.countOf_eq]

end SameByOption

/-! ## All that is given -/

section Given

variable {directory : String} {environment : Environment} {settings : Settings}
  {desk : Log.Desk} {given : List Given}

/-- What is sound comes to orders. -/
theorem runGiven_of_sound
    (hsettings : Settings.ofEnvironment directory environment = .ok settings)
    (hpanels : desk.panels.attached = []) (hsound : ∀ next ∈ given, next.IsSound) (moment : Int) :
    (runGiven settings desk given moment).outcome = .ok (.ok
        { host := (Orders.asked settings given).host, port := (Orders.asked settings given).port }) ∧
      (runGiven settings desk given moment).state.orders = .asked settings given ∧
      (runGiven settings desk given moment).state.serverProgram =
        (Orders.asked settings given).serverProgram ∧
      (runGiven settings desk given moment).state.desk.root.level =
        (Orders.asked settings given).logLevel := by
  rcases request_ofWords given with ⟨-, hwords⟩ | ⟨hunsound, -⟩
  · exact run_of_orders hwords (orders_ofGiven hsettings hsound) hpanels moment
  · exact absurd hsound hunsound

/-- What is not sound ends the commander, and changes nothing. -/
theorem runGiven_of_not_sound (settings : Settings) (desk : Log.Desk)
    (hsound : ¬ ∀ next ∈ given, next.IsSound) (moment : Int) :
    (∃ message, (runGiven settings desk given moment).outcome = .ok (.error (.misuse message))) ∧
      (runGiven settings desk given moment).state = .ofSettings settings desk := by
  rcases request_ofWords given with ⟨hsound', -⟩ | ⟨-, message, hwords⟩
  · exact absurd hsound' hsound
  · have hrun : runGiven settings desk given moment = _ := run_of_exit hwords moment _
    rw [hrun]
    exact ⟨⟨message, rfl⟩, rfl⟩

/-- The order in which different options are given does not matter. -/
theorem runGiven_congr {other : List Given} (hsame : SameByOption given other)
    (hsound : ∀ next ∈ given, next.IsSound) (settings : Settings) (desk : Log.Desk) (moment : Int) :
    runGiven settings desk other moment = runGiven settings desk given moment := by
  have hother : ∀ next ∈ other, next.IsSound := fun next hnext =>
    hsound next (hsame.mem_iff.mpr hnext)
  rcases request_ofWords given with ⟨-, hgiven⟩ | ⟨hunsound, -⟩
  · rcases request_ofWords other with ⟨-, hwords⟩ | ⟨hunsound, -⟩
    · rw [runGiven, runGiven, run, run, hgiven, hwords, hsame.ofGiven_eq]
    · exact absurd hother hunsound
  · exact absurd hsound hunsound

theorem isDebugLevel_asked
    (hsettings : Settings.ofEnvironment directory environment = .ok settings)
    (hsound : ∀ next ∈ given, next.IsSound) :
    ∃ level, (Orders.asked settings given).debugLevel = some level ∧
      Supervisor.isDebugLevel level := by
  refine ⟨_, rfl, ?_⟩
  cases hlast : last .debugLevel given with
  | none => exact (ofEnvironment_eq hsettings).1
  | some text =>
    obtain ⟨-, n, hn, hrange⟩ := sound_of_last hsound hlast
    have hread : integer? text = some n := by
      rw [integer?, hn]
      rfl
    simpa [hread] using isDebugLevel_iff.mpr hrange

/-- **The command line goes before the environment, in any order.** Options with values and flags are
given to a commander with the settings of an environment. If each port is an integer, each debug
level one from 0 to 9 and each level of logging one of the six names, then the commander serves its
pages with the orders that are asked for, its server has the program of these orders, and the root
logger their level; and that does not depend on the order in which different options are given.
Otherwise it ends with misuse, and nothing is changed. In either case the debug level is one that the
server has. -/
theorem command_line_first
    (hsettings : Settings.ofEnvironment directory environment = .ok settings)
    (hpanels : desk.panels.attached = []) (given : List Given) (moment : Int) :
    ((∀ next ∈ given, next.IsSound) →
      (runGiven settings desk given moment).outcome = .ok (.ok
        { host := (Orders.asked settings given).host, port := (Orders.asked settings given).port }) ∧
      (runGiven settings desk given moment).state.orders = .asked settings given ∧
      (runGiven settings desk given moment).state.serverProgram =
        (Orders.asked settings given).serverProgram ∧
      (runGiven settings desk given moment).state.desk.root.level =
        (Orders.asked settings given).logLevel ∧
      ∀ other, SameByOption given other →
        runGiven settings desk other moment = runGiven settings desk given moment) ∧
    ((¬ ∀ next ∈ given, next.IsSound) →
      (∃ message, (runGiven settings desk given moment).outcome = .ok (.error (.misuse message))) ∧
      (runGiven settings desk given moment).state = .ofSettings settings desk) ∧
    ∃ level, (runGiven settings desk given moment).state.orders.debugLevel = some level ∧
      Supervisor.isDebugLevel level := by
  by_cases hsound : ∀ next ∈ given, next.IsSound
  · obtain ⟨houtcome, horders, hprogram, hlevel⟩ :=
      runGiven_of_sound hsettings hpanels hsound moment
    refine ⟨fun _ => ⟨houtcome, horders, hprogram, hlevel, fun other hsame =>
      runGiven_congr hsame hsound settings desk moment⟩, fun hnot => absurd hsound hnot, ?_⟩
    rw [horders]
    exact isDebugLevel_asked hsettings hsound
  · obtain ⟨houtcome, hstate⟩ := runGiven_of_not_sound settings desk hsound moment
    refine ⟨fun h => absurd h hsound, fun _ => ⟨houtcome, hstate⟩, ?_⟩
    rw [hstate]
    exact ⟨_, rfl, (ofEnvironment_eq hsettings).1⟩

/-- The port that is given last counts, and `-v` before `-q`. The environment asks for a debug level
that is too high. -/
theorem command_line_first_twice : ∃ settings,
    Settings.ofEnvironment "data" [("TCMG_DEBUG_LEVEL", "42"), ("TCMG_UI_PORT", "8100")] =
      .ok settings ∧
    (runGiven settings {} [.value .port "80" (by decide), .switch .quiet, .switch .verbose,
        .value .port "9000" (by decide)] 0).state.orders =
      { serverProgram := some "tcmg", configDirectory := some "data", debugLevel := some 9,
        autoStart := false, host := some "0.0.0.0", port := 9000, logLevel := .info } := by
  have hsettings : Settings.ofEnvironment "data"
      [("TCMG_DEBUG_LEVEL", "42"), ("TCMG_UI_PORT", "8100")] =
        .ok { configDirectory := some "data", debugLevel := 9, port := 8100 } := by
    have hlevel : Failure.ofText? "42" = none := (Files.ofText?_eq_none _).mpr (by decide)
    have hport : Failure.ofText? "8100" = none := (Files.ofText?_eq_none _).mpr (by decide)
    simp only [Settings.ofEnvironment, List.findSome?, hlevel, hport]
    rfl
  have hnone : ({} : Log.Desk).panels.attached = [] := rfl
  obtain ⟨-, horders, -, -, -⟩ := (command_line_first hsettings hnone
    [.value .port "80" (by decide), .switch .quiet, .switch .verbose,
      .value .port "9000" (by decide)] 0).1 (by
    simp only [List.forall_mem_cons]
    exact ⟨⟨80, by decide⟩, trivial, trivial, ⟨9000, by decide⟩, List.forall_mem_nil _⟩)
  exact ⟨_, hsettings, horders.trans (by decide)⟩

end Given

end Warden.CommandLine
