import Warden.Log.Root
import Warden.Proofs.Act.Keeps
import Warden.Proofs.Log.Mirror

/-!
# Logging is set up once

Each set-up looks through the handlers for a console and for a relay, and adds what it does not find.
So however often logging is set up, there is one console and at most one relay, and all that later
set-ups change are levels: those of the root logger and the console are the last ones asked for, that
of the relay is the last one asked for together with a relay. An entry is written once or not at all,
and no panel gets it twice, or gets chatter.

## Main definitions

* `consoleAfter`, `relayAfter`: the console and the relay after some set-ups
* `Root.Follows`: a root logger that has these handlers and no others of their kind
* `Entry.IsShowable`: an entry that has lines
* `Event`, `Desk.run`: what happens to a desk, and a desk after a history
* `notable`: the lines of the entries that are no chatter

## Main results

* `Handler.filter_ensure`: one handler of a kind is changed or added
* `Root.Follows.configure`: a set-up keeps one console and at most one relay
* `Desk.log_eq`, `Desk.panels_log`: an entry is written once, and reaches the panels at most once
* `Desk.follows_run`: the handlers after a history
* `Desk.offered_run`: the panels got lines that are no chatter, each once
* `Desk.set_up_once`: all that holds whenever logging was set up
-/

namespace Warden.Log

/-! ## Handlers of a kind -/

namespace Handler

@[simp] theorem isConsole_atLevel (level : Level) (handler : Handler) :
    (handler.atLevel level).isConsole = handler.isConsole := by
  cases handler <;> rfl

@[simp] theorem isRelay_atLevel (level : Level) (handler : Handler) :
    (handler.atLevel level).isRelay = handler.isRelay := by
  cases handler <;> rfl

theorem isRelay_eq (handler : Handler) : handler.isRelay = !handler.isConsole := by
  cases handler <;> rfl

section Ensure

variable {isOfKind other : Handler → Bool} {given : Handler}

/-- **Of the handlers of a kind**, the first one has the level that is wanted. -/
theorem filter_ensure
    (hlevel : ∀ level handler, isOfKind (atLevel level handler) = isOfKind handler)
    (hgiven : isOfKind given = true) (handlers : List Handler) :
    (ensure isOfKind given handlers).filter isOfKind =
      match handlers.filter isOfKind with
      | [] => [given]
      | handler :: rest => handler.atLevel given.level :: rest := by
  induction handlers with
  | nil => simp [ensure, hgiven]
  | cons handler rest ih =>
    by_cases hhandler : isOfKind handler = true
    · simp [ensure, hhandler, hlevel]
    · simp [ensure, hhandler, ih]

/-- The handlers of another kind stay as they are. -/
theorem filter_ensure_other
    (hlevel : ∀ level handler, other (atLevel level handler) = other handler)
    (hother : ∀ handler, isOfKind handler = true → other handler = false)
    (hgiven : isOfKind given = true) (handlers : List Handler) :
    (ensure isOfKind given handlers).filter other = handlers.filter other := by
  induction handlers with
  | nil => simp [ensure, hother given hgiven]
  | cons handler rest ih =>
    by_cases hhandler : isOfKind handler = true
    · simp [ensure, hhandler, hlevel, hother handler hhandler]
    · simp [ensure, hhandler, List.filter_cons, ih]

end Ensure

end Handler

/-! ## The root logger after some set-ups -/

/-- The console after some set-ups: the first one chooses the colours, the last one the level. -/
def consoleAfter (terminal : Bool) (setups : List Setup) : Option Handler := do
  let first ← setups.head?
  let last ← setups.getLast?
  return .console last.level (showsColors first.colors terminal)

/-- The relay after some set-ups: the last one that asked for a relay chooses its level. -/
def relayAfter (setups : List Setup) : Option Handler :=
  (setups.filter Setup.relayed).getLast?.map fun setup => .relay (setup.level.max .info)

theorem any_relayed (setups : List Setup) :
    setups.any Setup.relayed = (setups.filter Setup.relayed).getLast?.isSome := by
  rw [Bool.eq_iff_iff]
  simp

theorem consoleAfter_concat (terminal : Bool) (setups : List Setup) (setup : Setup) :
    consoleAfter terminal (setups ++ [setup]) =
      some (match consoleAfter terminal setups with
        | none => .console setup.level (showsColors setup.colors terminal)
        | some console => console.atLevel setup.level) := by
  cases setups with
  | nil => rfl
  | cons first rest => simp [consoleAfter, List.getLast?_cons, Handler.atLevel]

theorem relayAfter_concat (setups : List Setup) (setup : Setup) :
    relayAfter (setups ++ [setup]) =
      if setup.relayed then some (.relay (setup.level.max .info)) else relayAfter setups := by
  by_cases hrelayed : setup.relayed = true <;> simp [relayAfter, hrelayed]

/-- A root logger has the level, the console and the relay that some set-ups asked for, and no other
handlers of these kinds. -/
structure Root.Follows (root : Root) (terminal : Bool) (setups : List Setup) : Prop where
  level : ∀ last, setups.getLast? = some last → root.level = last.level
  consoles : root.handlers.filter Handler.isConsole = (consoleAfter terminal setups).toList
  relays : root.handlers.filter Handler.isRelay = (relayAfter setups).toList

theorem Root.follows_nil {root : Root} (terminal : Bool) (hbare : root.handlers = []) :
    root.Follows terminal [] where
  level := nofun
  consoles := by rw [hbare]; rfl
  relays := by rw [hbare]; rfl

/-- The handlers once a set-up saw to the console. -/
def Root.withConsole (root : Root) (terminal : Bool) (setup : Setup) : List Handler :=
  Handler.ensure Handler.isConsole
    (.console setup.level (showsColors setup.colors terminal)) root.handlers

theorem Root.handlers_configure (root : Root) (terminal : Bool) (setup : Setup) :
    (root.configure terminal setup).handlers =
      if setup.relayed then
        Handler.ensure Handler.isRelay (.relay (setup.level.max .info))
          (withConsole root terminal setup)
      else withConsole root terminal setup := rfl

/-- **A set-up** keeps one console and at most one relay. -/
theorem Root.Follows.configure {root : Root} {terminal : Bool} {setups : List Setup}
    (hroot : root.Follows terminal setups) (setup : Setup) :
    (root.configure terminal setup).Follows terminal (setups ++ [setup]) where
  level last hlast := by
    obtain rfl : setup = last := by simpa using hlast
    rfl
  consoles := by
    have hconsoles : (withConsole root terminal setup).filter Handler.isConsole =
        (consoleAfter terminal (setups ++ [setup])).toList := by
      rw [withConsole, Handler.filter_ensure Handler.isConsole_atLevel rfl, hroot.consoles,
        consoleAfter_concat]
      cases consoleAfter terminal setups <;> rfl
    rw [handlers_configure]
    split_ifs
    · -- a relay that is added or changed is no console
      rw [Handler.filter_ensure_other Handler.isConsole_atLevel (by simp [Handler.isRelay_eq]) rfl,
        hconsoles]
    · exact hconsoles
  relays := by
    have hrelays : (withConsole root terminal setup).filter Handler.isRelay =
        (relayAfter setups).toList := by
      rw [withConsole, Handler.filter_ensure_other Handler.isRelay_atLevel
        (by simp [Handler.isRelay_eq]) rfl, hroot.relays]
    rw [handlers_configure]
    split_ifs with hrelayed
    · rw [Handler.filter_ensure Handler.isRelay_atLevel rfl, hrelays, relayAfter_concat,
        if_pos hrelayed, relayAfter]
      cases (setups.filter Setup.relayed).getLast? <;> rfl
    · rw [hrelays, relayAfter_concat, if_neg hrelayed]

/-! ## An entry on a desk -/

theorem Level.max_le_iff {a b c : Level} : a.max b ≤ c ↔ a ≤ c ∧ b ≤ c := by
  have hle (x y : Level) : x ≤ y ↔ x.severity ≤ y.severity := Iff.rfl
  rw [Level.max]
  split_ifs with h <;> simp only [hle] at * <;> omega

/-- An entry has a label, a message and a time of day, so that it has lines. -/
structure Entry.IsShowable (entry : Entry) : Prop where
  label : ∃ label, entry.level.label = .ok label
  message : ∃ message, entry.message = .ok message
  time : ∃ time, entry.time = .ok time

theorem Entry.IsShowable.exists_consoleLine {entry : Entry} (h : entry.IsShowable)
    (colored : Bool) : ∃ line, entry.consoleLine colored = .ok line := by
  obtain ⟨⟨label, hlabel⟩, ⟨message, hmessage⟩, ⟨time, htime⟩⟩ := h
  rw [consoleLine, hlabel, hmessage, htime]
  cases colored <;> exact ⟨_, rfl⟩

theorem Entry.IsShowable.exists_panelLine {entry : Entry} (h : entry.IsShowable) :
    ∃ line, entry.panelLine = .ok line := by
  obtain ⟨⟨label, hlabel⟩, ⟨message, hmessage⟩, ⟨time, htime⟩⟩ := h
  rw [panelLine, hlabel, hmessage, htime]
  exact ⟨_, rfl⟩

theorem Entry.exists_failure {entry : Entry} (h : ¬ entry.IsShowable) :
    ∃ failure, entry.panelLine = .error failure := by
  cases hlabel : entry.level.label with
  | error failure => exact ⟨failure, by rw [panelLine, hlabel]; rfl⟩
  | ok label =>
    cases hmessage : entry.message with
    | error failure => exact ⟨failure, by rw [panelLine, hlabel, hmessage]; rfl⟩
    | ok message =>
      cases htime : entry.time with
      | error failure => exact ⟨failure, by rw [panelLine, hlabel, hmessage, htime]; rfl⟩
      | ok time => exact (h ⟨⟨_, hlabel⟩, ⟨_, hmessage⟩, ⟨_, htime⟩⟩).elim

/-- An entry without a line changes no panel. -/
theorem Panels.emit_error {entry : Entry} {failure : Failure}
    (hline : entry.panelLine = .error failure) (panels : Panels) :
    panels.emit entry = .ok panels ∨ panels.emit entry = .error failure := by
  by_cases hempty : panels.attached.isEmpty = true
  · exact .inl (by rw [emit, if_pos hempty])
  · exact .inr (by rw [emit, if_neg hempty, hline]; rfl)

/-- What a handler writes of an entry. -/
def Handler.text (entry : Entry) : Handler → String
  | console level colored =>
    if level ≤ entry.level then
      match entry.consoleLine colored with
      | .ok line => line ++ "\n"
      | .error _ => ""
    else ""
  | relay _ => ""

/-- The panels after a handler took an entry. -/
def Handler.pushed (entry : Entry) (panels : Panels) : Handler → Panels
  | console .. => panels
  | relay level => if level ≤ entry.level then panels.after (.emit entry) else panels

namespace Desk

open Warden.Act (Keeps)

variable {entry : Entry} {desk : Desk}

theorem run_emit (entry : Entry) (desk : Desk) :
    emit entry desk = (Act.ofExcept (desk.panels.emit entry) >>= fun panels =>
      Act.modify fun desk : Desk => { desk with panels }) desk := rfl

theorem emit_eq {line : String} (hline : entry.panelLine = .ok line) (desk : Desk) :
    emit entry desk = ⟨.ok (), { desk with panels := desk.panels.push line }, []⟩ := by
  rw [run_emit, Panels.emit_ok hline]
  rfl

/-- A handler takes an entry that has lines. -/
theorem handle_eq (hshow : entry.IsShowable) (handler : Handler) (desk : Desk) :
    handle entry handler desk =
      ⟨.ok (), { desk with
        written := desk.written ++ handler.text entry
        panels := handler.pushed entry desk.panels }, []⟩ := by
  cases handler with
  | console level colored =>
    obtain ⟨line, hline⟩ := hshow.exists_consoleLine colored
    by_cases hlevel : level ≤ entry.level <;>
      simp [handle, Handler.level, Handler.text, Handler.pushed, hlevel, hline, writeLine,
        String.append_assoc]
  | relay level =>
    obtain ⟨line, hline⟩ := hshow.exists_panelLine
    by_cases hlevel : level ≤ entry.level
    · simp [handle, Handler.level, Handler.text, Handler.pushed, hlevel, emit_eq hline,
        Panels.after_emit_ok hline]
    · simp [handle, Handler.level, Handler.text, Handler.pushed, hlevel]

/-- Handlers take an entry that has lines one after the other. -/
theorem handleAll_eq (hshow : entry.IsShowable) (handlers : List Handler) (desk : Desk) :
    handlers.forM (handle entry) desk =
      ⟨.ok (), { desk with
        written := desk.written ++ String.join (handlers.map (Handler.text entry))
        panels := handlers.foldl (Handler.pushed entry) desk.panels }, []⟩ := by
  induction handlers generalizing desk with
  | nil => simp
  | cons handler rest ih =>
    have hstep : (handler :: rest).forM (handle entry) desk =
        (handle entry handler >>= fun _ => rest.forM (handle entry)) desk := rfl
    rw [hstep, Act.run_bind, handle_eq hshow]
    simp only [ih, List.map_cons, String.join_cons, List.foldl_cons, String.append_assoc,
      List.append_nil]

/-- Only consoles write. -/
theorem join_text (entry : Entry) (handlers : List Handler) :
    String.join (handlers.map (Handler.text entry)) =
      String.join ((handlers.filter Handler.isConsole).map (Handler.text entry)) := by
  induction handlers with
  | nil => rfl
  | cons handler rest ih =>
    cases handler with
    | console level colored => simp [List.filter_cons, Handler.isConsole, ih]
    | relay level => simp [Handler.isConsole, Handler.text, ih]

/-- Only relays push. -/
theorem foldl_pushed (entry : Entry) (handlers : List Handler) (panels : Panels) :
    handlers.foldl (Handler.pushed entry) panels =
      (handlers.filter Handler.isRelay).foldl (Handler.pushed entry) panels := by
  induction handlers generalizing panels with
  | nil => rfl
  | cons handler rest ih =>
    cases handler with
    | console level colored => simp [Handler.isRelay, Handler.pushed, ih]
    | relay level => simp [List.filter_cons, Handler.isRelay, ih]

theorem run_log {label : String} (hlabel : entry.level.label = .ok label) (desk : Desk) :
    log entry desk =
      (if desk.root.takes entry.level then
        if desk.root.handlers.isEmpty then toNobody entry
        else desk.root.handlers.forM (handle entry)
      else pure ()) desk := by
  have hrun : log entry desk =
      (if desk.root.takes entry.level then do
        discard (Act.ofExcept entry.level.label)
        if desk.root.handlers.isEmpty then toNobody entry
        else desk.root.handlers.forM (handle entry)
      else pure ()) desk := rfl
  rw [hrun, hlabel]
  split_ifs <;> rfl

/-- An entry keeps what the console and the panels keep. -/
theorem keeps_log {P : Desk → Prop} {E : Failure → Prop}
    (hlabel : ∀ failure, entry.level.label = .error failure → E failure)
    (hwritten : ∀ desk written, P desk → P { desk with written }) (hemit : Keeps P E (emit entry)) :
    Keeps P E (log entry) := by
  have hwrite (line : Except Failure String) : Keeps P E (writeLine line) := by
    cases line with
    | ok line => exact .modify fun desk => hwritten desk _
    | error => exact .pure ()
  refine Keeps.bind (.view _) fun root => .ite (.bind ((Keeps.ofExcept hlabel).map _) fun _ =>
    .ite (.ite (hwrite _) (.pure ())) ?_) (.pure ())
  refine .forM (fun handler => .ite ?_ (.pure ())) _
  cases handler with
  | console level colored => exact hwrite _
  | relay level => exact hemit

/-- An entry changes nothing about the handlers. -/
theorem keeps_handlers_log (entry : Entry) (root : Root) (terminal : Bool) :
    Keeps (fun desk : Desk => desk.root = root ∧ desk.terminal = terminal) (fun _ => True)
      (log entry) :=
  keeps_log (fun _ _ => trivial) (fun _ _ hdesk => hdesk) <|
    Keeps.bind (.view id) fun _ => Keeps.bind (.ofExcept fun _ _ => trivial) fun _ =>
      .modify fun _ hdesk => hdesk

/-- An entry without lines does not reach the panels. -/
theorem panels_log_of_not_showable (hshow : ¬ entry.IsShowable) (desk : Desk) :
    (log entry desk).state.panels = desk.panels := by
  obtain ⟨failure, hline⟩ := Entry.exists_failure hshow
  have hemit : Keeps (fun now : Desk => now.panels = desk.panels) (fun _ => True) (emit entry) := by
    refine ⟨fun now hnow => ?_, fun _ _ _ _ => trivial⟩
    rw [run_emit, hnow]
    rcases Panels.emit_error hline desk.panels with hpanels | hpanels <;> simp [hpanels, hnow]
  exact (keeps_log (fun _ _ => trivial) (fun _ _ hnow => hnow) hemit).state desk rfl

/-- A desk has the handlers that some set-ups asked for. -/
def Follows (desk : Desk) (setups : List Setup) : Prop :=
  desk.root.Follows desk.terminal setups

/-- **An entry reaches the panels** once or not at all, and only if it is no chatter. -/
theorem panels_log {setups : List Setup} (hdesk : desk.Follows setups) (entry : Entry) :
    (log entry desk).state.panels = desk.panels ∨
      .info ≤ entry.level ∧ (log entry desk).state.panels = desk.panels.after (.emit entry) := by
  by_cases hshow : entry.IsShowable
  · obtain ⟨label, hlabel⟩ := hshow.label
    rw [run_log hlabel]
    by_cases htakes : desk.root.takes entry.level = true
    · by_cases hnobody : desk.root.handlers.isEmpty = true
      · rw [if_pos htakes, if_pos hnobody]
        left
        obtain ⟨message, hmessage⟩ := hshow.message
        by_cases hwarning : Level.warning ≤ entry.level <;>
          simp [toNobody, hwarning, hmessage, writeLine]
      · rw [if_pos htakes, if_neg hnobody, handleAll_eq hshow, foldl_pushed, hdesk.relays]
        cases hrelay : (setups.filter Setup.relayed).getLast? with
        | none => exact .inl (by simp [relayAfter, hrelay])
        | some setup =>
          by_cases hlevel : setup.level.max .info ≤ entry.level
          · refine .inr ⟨(Level.max_le_iff.mp hlevel).2, ?_⟩
            simp [relayAfter, hrelay, Handler.pushed, hlevel]
          · exact .inl (by simp [relayAfter, hrelay, Handler.pushed, hlevel])
    · exact .inl (by simp [htakes])
  · exact .inl (panels_log_of_not_showable hshow desk)

/-- **An entry is written** once, if its level is not below the one that was asked for last. -/
theorem log_eq {setups : List Setup} {first last : Setup} (hdesk : desk.Follows setups)
    (hfirst : setups.head? = some first) (hlast : setups.getLast? = some last)
    (hshow : entry.IsShowable) (hlevel : 0 < entry.level.severity) :
    (log entry desk).outcome = .ok () ∧
      ∃ line, entry.consoleLine (showsColors first.colors desk.terminal) = .ok line ∧
        (log entry desk).state.written =
          desk.written ++ if last.level ≤ entry.level then line ++ "\n" else "" := by
  obtain ⟨line, hline⟩ := hshow.exists_consoleLine (showsColors first.colors desk.terminal)
  have hconsole : desk.root.handlers.filter Handler.isConsole =
      [.console last.level (showsColors first.colors desk.terminal)] := by
    rw [hdesk.consoles, consoleAfter, hfirst, hlast]
    rfl
  have hsome : desk.root.handlers ≠ [] := by
    intro hnil
    simp [hnil] at hconsole
  have htakes : desk.root.takes entry.level = decide (last.level ≤ entry.level) := by
    simp [Root.takes, hlevel, hdesk.level last hlast]
  obtain ⟨label, hlabel⟩ := hshow.label
  rw [run_log hlabel, htakes]
  by_cases hlast : last.level ≤ entry.level
  · have hrun := handleAll_eq hshow desk.root.handlers desk
    rw [join_text, hconsole] at hrun
    simp [hlast, hsome, hrun, Handler.text, hline]
  · simp [hlast, hline]

end Desk

/-! ## A history -/

/-- What happens to a desk. -/
inductive Event where
  | setUp (setup : Setup)
  | log (entry : Entry)
  /-- Something happens to the panels, other than a line. -/
  | move (move : Move) (silent : move.line? = none)

/-- The set-up that happens. -/
def Event.setup? : Event → Option Setup
  | setUp setup => some setup
  | _ => none

/-- The set-ups of a history. -/
def setUps (events : List Event) : List Setup :=
  events.filterMap Event.setup?

/-- The line for the panels of an entry that is no chatter. -/
def Event.notable? : Event → Option String
  | log entry => if .info ≤ entry.level then entry.panelLine.toOption else none
  | _ => none

theorem Event.length_notable (event : Event) : event.notable?.toList.length ≤ 1 := by
  cases event.notable? <;> simp

theorem Event.of_mem_notable {entry : Entry} {line : String}
    (hline : line ∈ (log entry).notable?.toList) :
    .info ≤ entry.level ∧ entry.panelLine = .ok line := by
  rw [Option.mem_toList, notable?] at hline
  split_ifs at hline with hinfo
  · cases hpanel : entry.panelLine with
    | ok shown => simp_all [Except.toOption]
    | error => simp [hpanel, Except.toOption] at hline

/-- The lines for the panels of all entries that are no chatter. -/
def notable (events : List Event) : List String :=
  events.filterMap Event.notable?

@[simp] theorem setUps_concat (events : List Event) (event : Event) :
    setUps (events ++ [event]) = setUps events ++ event.setup?.toList := by
  cases hsetup : event.setup? <;> simp [setUps, hsetup]

@[simp] theorem notable_concat (events : List Event) (event : Event) :
    notable (events ++ [event]) = notable events ++ event.notable?.toList := by
  cases hline : event.notable? <;> simp [notable, hline]

namespace Desk

/-- A desk after something happened. -/
def after (desk : Desk) : Event → Desk
  | .setUp setup => (configure setup desk).state
  | .log entry => (log entry desk).state
  | .move move _ => { desk with panels := desk.panels.after move }

/-- A desk after a history. -/
def run (desk : Desk) (events : List Event) : Desk :=
  events.foldl after desk

theorem run_concat (desk : Desk) (events : List Event) (event : Event) :
    desk.run (events ++ [event]) = (desk.run events).after event := by
  simp [run]

section History

variable {desk : Desk} {setups : List Setup} {events : List Event}

/-- **Whatever happens** to a desk, it has the handlers that were asked for, and stays tidy. -/
theorem Follows.after (hdesk : desk.Follows setups) (event : Event) :
    (desk.after event).Follows (setups ++ event.setup?.toList) := by
  cases event with
  | setUp setup => exact hdesk.configure setup
  | log entry =>
    obtain ⟨hroot, hterminal⟩ :=
      (keeps_handlers_log entry desk.root desk.terminal).state desk ⟨rfl, rfl⟩
    simpa [Follows, Desk.after, hroot, hterminal, Event.setup?] using hdesk
  | move => simpa [Event.setup?, Follows, Desk.after] using hdesk

theorem tidy_after (hdesk : desk.Follows setups) (htidy : desk.panels.Tidy) (event : Event) :
    (desk.after event).panels.Tidy := by
  cases event with
  | setUp => exact htidy
  | log entry =>
    rcases panels_log hdesk entry with hpanels | ⟨-, hpanels⟩ <;> simp only [Desk.after, hpanels]
    · exact htidy
    · exact htidy.after _
  | move move => exact htidy.after move

theorem follows_run (hbare : desk.root.handlers = []) (events : List Event) :
    (desk.run events).Follows (setUps events) := by
  induction events using List.reverseRecOn with
  | nil => exact Root.follows_nil _ hbare
  | append_singleton events event ih =>
    rw [run_concat, setUps_concat]
    exact ih.after event

theorem tidy_run (hbare : desk.root.handlers = []) (htidy : desk.panels.Tidy)
    (events : List Event) : (desk.run events).panels.Tidy := by
  induction events using List.reverseRecOn with
  | nil => exact htidy
  | append_singleton events event ih =>
    rw [run_concat]
    exact tidy_after (follows_run hbare events) ih event

/-- A panel gets the line of an entry that is no chatter, once or not at all, and nothing else. -/
theorem offered_after (hdesk : desk.Follows setups) (htidy : desk.panels.Tidy) (event : Event)
    {id : Nat} {panel : Panel} (hpanel : desk.panels.made[id]? = some panel) :
    ∃ now, ∃ pushed : List String, (desk.after event).panels.made[id]? = some now ∧
      now.offered = pushed ++ panel.offered ∧ pushed.Sublist event.notable?.toList := by
  cases event with
  | setUp => exact ⟨panel, [], hpanel, rfl, List.nil_sublist _⟩
  | log entry =>
    rcases panels_log hdesk entry with hpanels | ⟨hinfo, hpanels⟩ <;>
      simp only [Desk.after, hpanels]
    · exact ⟨panel, [], hpanel, rfl, List.nil_sublist _⟩
    · rw [Panels.made_after htidy, hpanel]
      refine ⟨_, _, rfl, Panel.offered_after .., ?_⟩
      rw [Event.notable?, if_pos hinfo]
      split_ifs
      · exact List.Sublist.refl _
      · exact List.nil_sublist _
  | move move silent =>
    simp only [Desk.after, Panels.made_after htidy, hpanel]
    refine ⟨_, _, rfl, Panel.offered_after .., ?_⟩
    rw [silent]
    split_ifs <;> exact List.nil_sublist _

/-- What a panel got in a history: lines that are no chatter, each once, in their order. -/
theorem offered_run (hbare : desk.root.handlers = []) (htidy : desk.panels.Tidy)
    (events : List Event) {id : Nat} {panel : Panel} (hpanel : desk.panels.made[id]? = some panel) :
    ∃ now, ∃ pushed : List String, (desk.run events).panels.made[id]? = some now ∧
      now.offered = pushed.reverse ++ panel.offered ∧ pushed.Sublist (notable events) := by
  induction events using List.reverseRecOn with
  | nil => exact ⟨panel, [], hpanel, rfl, List.nil_sublist _⟩
  | append_singleton events event ih =>
    obtain ⟨before, pushed, hbefore, hoffered, hpushed⟩ := ih
    obtain ⟨now, more, hnow, hmore, hline⟩ :=
      offered_after (follows_run hbare events) (tidy_run hbare htidy events) event hbefore
    -- one line at most is its own reverse
    have hreverse : more.reverse = more := by
      have hlength : more.length ≤ 1 := hline.length_le.trans event.length_notable
      match more, hlength with
      | [], _ => rfl
      | [_], _ => rfl
    refine ⟨now, pushed ++ more, by rw [run_concat, hnow], ?_, ?_⟩
    · rw [hmore, hoffered, List.reverse_append, hreverse, List.append_assoc]
    · rw [notable_concat]
      exact hpushed.append hline

/-- **Logging is set up once, however often it is done.** In every history of a desk without
handlers, with set-ups, entries and changes of the panels in any order, after at least one set-up:
there is one console and, if any set-up asked for a relay, one relay, otherwise none. The levels of
the root logger and of the console are those of the last set-up; that of the relay is the level of
the last set-up that asked for one, but not below `info`. An entry that can be shown is written as
one line if its level is not below that of the last set-up, and otherwise not at all. No entry
reaches a panel more than once, and none below `info` does, so that in the whole history a panel got
lines of entries that are no chatter, each once and in their order. -/
theorem set_up_once (hbare : desk.root.handlers = []) (htidy : desk.panels.Tidy) {last : Setup}
    (hlast : (setUps events).getLast? = some last) :
    ((desk.run events).root.level = last.level ∧
      (desk.run events).root.handlers.countP Handler.isConsole = 1 ∧
      (desk.run events).root.console.map Handler.level = some last.level ∧
      (desk.run events).root.handlers.countP Handler.isRelay =
        (if (setUps events).any Setup.relayed then 1 else 0) ∧
      (desk.run events).root.relay =
        ((setUps events).filter Setup.relayed).getLast?.map fun setup => setup.level.max .info) ∧
    (∀ entry : Entry, entry.IsShowable → 0 < entry.level.severity →
      (log entry (desk.run events)).outcome = .ok () ∧
      ∃ colored line, entry.consoleLine colored = .ok line ∧
        (log entry (desk.run events)).state.written = (desk.run events).written ++
          if last.level ≤ entry.level then line ++ "\n" else "") ∧
    (∀ (entry : Entry) (id : Nat) (panel : Panel),
      (desk.run events).panels.made[id]? = some panel →
      ∃ now, ∃ pushed : List String,
        (log entry (desk.run events)).state.panels.made[id]? = some now ∧
        now.offered = pushed ++ panel.offered ∧ pushed.length ≤ 1 ∧
        ∀ line ∈ pushed, Level.info ≤ entry.level ∧ entry.panelLine = .ok line) ∧
    ∀ (id : Nat) (panel : Panel), desk.panels.made[id]? = some panel →
      ∃ now, ∃ pushed : List String, (desk.run events).panels.made[id]? = some now ∧
        now.offered = pushed.reverse ++ panel.offered ∧ pushed.Sublist (notable events) := by
  have hfollows := follows_run hbare events
  have htidy' := tidy_run hbare htidy events
  obtain ⟨first, hfirst⟩ : ∃ first, (setUps events).head? = some first := by
    cases hsetups : setUps events with
    | nil => simp [hsetups] at hlast
    | cons first rest => exact ⟨first, rfl⟩
  have hconsoles := hfollows.consoles
  have hrelays := hfollows.relays
  simp only [consoleAfter, hfirst, hlast, relayAfter] at hconsoles hrelays
  refine ⟨⟨hfollows.level last hlast, ?_, ?_, ?_, ?_⟩, fun entry hshow hlevel => ?_,
    fun entry id panel hpanel => ?_, fun id panel hpanel => offered_run hbare htidy events hpanel⟩
  · simp [List.countP_eq_length_filter, hconsoles]
  · rw [Root.console, ← List.head?_filter, hconsoles]
    rfl
  · rw [List.countP_eq_length_filter, hrelays, any_relayed]
    cases ((setUps events).filter Setup.relayed).getLast? <;> rfl
  · rw [Root.relay, ← List.head?_filter, hrelays]
    cases ((setUps events).filter Setup.relayed).getLast? <;> rfl
  · obtain ⟨houtcome, line, hline, hwritten⟩ := log_eq hfollows hfirst hlast hshow hlevel
    exact ⟨houtcome, _, line, hline, hwritten⟩
  · obtain ⟨now, pushed, hnow, hoffered, hpushed⟩ :=
      offered_after hfollows htidy' (.log entry) hpanel
    refine ⟨now, pushed, hnow, hoffered, ?_, fun line hline => ?_⟩
    · exact hpushed.length_le.trans (Event.length_notable _)
    · exact Event.of_mem_notable (hpushed.subset hline)

/-- Logging is set up with chatter and a relay, and then for errors only without one: the relay stays,
a warning is not written any more, and the panel got at most the entry that is no chatter. -/
theorem set_up_once_quieter :
    let tick : Entry := { level := .debug, template := "tick" }
    let ready : Entry := { level := .info, template := "ready" }
    let full : Entry := { level := .warning, template := "disk full" }
    let first : Desk := { panels := { made := #[{}] } }
    let now := first.run [.setUp { level := .trace }, .move (.attach 0) rfl, .log tick, .log ready,
      .setUp { level := .error, relayed := false }]
    now.root.handlers.countP Handler.isConsole = 1 ∧
      now.root.handlers.countP Handler.isRelay = 1 ∧ now.root.relay = some .info ∧
      (log full now).state.written = now.written ∧
      ∃ panel, ∃ pushed : List String, now.panels.made[0]? = some panel ∧
        panel.offered = pushed.reverse ∧ pushed.Sublist ["00:00:00 [INFO] ready"] := by
  intro tick ready full first now
  have hbare : first.root.handlers = [] := rfl
  have htidy : first.panels.Tidy := ⟨List.nodup_nil, nofun⟩
  have hlast : (setUps [.setUp { level := .trace }, .move (.attach 0) rfl, .log tick, .log ready,
      .setUp { level := .error, relayed := false }]).getLast? =
        some { level := .error, relayed := false } := rfl
  obtain ⟨⟨-, hconsole, -, hrelay, hlevel⟩, hwritten, -, hpanels⟩ := set_up_once hbare htidy hlast
  obtain ⟨panel, pushed, hpanel, hoffered, hpushed⟩ := hpanels 0 {} rfl
  refine ⟨hconsole, hrelay, hlevel, ?_, panel, pushed, hpanel, ?_, ?_⟩
  · obtain ⟨-, _, line, -, hline⟩ := hwritten full ⟨⟨_, rfl⟩, ⟨_, rfl⟩, ⟨_, rfl⟩⟩ (by decide)
    rw [hline, if_neg (by decide), String.append_empty]
  · simpa using hoffered
  · have hnotable : notable [.setUp { level := .trace }, .move (.attach 0) rfl, .log tick,
        .log ready, .setUp { level := .error, relayed := false }] = ["00:00:00 [INFO] ready"] := by
      decide
    exact hnotable ▸ hpushed

end History

end Desk

end Warden.Log
