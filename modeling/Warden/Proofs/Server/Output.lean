import Warden.Proofs.Server.FixedPort
import Warden.Proofs.ServerLog.Batch
import Warden.Proofs.Text.Lines

/-!
# The output of the server in the log

What a process writes is read line by line into the ring, whichever way its lines end, and handed
out line by line. The text that is handed out is the text that was written, with a line feed for
every line end and behind the last line. Of more lines than the ring retains it is the last ones.

## Main definitions

* `Job.said`: what a process writes, with a line feed for every line end
* `ChildServer.written`: the lines that all processes wrote
* `Logged`: the ring was written from these lines

## Main results

* `toList_joinLines_outputLines`: the lines of a process make up what it writes
* `outputLines_of_pipeFailure`: the lines of a process that cannot be read to its end
* `Logged.step`, `Logged.after`: every step and every run keeps the ring and the lines together
* `output_handed_out`: the text that is handed out after every run
-/

namespace Warden.Server

open Warden.Text

/-! ## What a process writes -/

/-- The text that a process writes, if anybody can read it. -/
def Job.text (job : Job) : List Char :=
  (job.output.map Utf8.decode).getD []

/-- What a process writes, with a line feed for every line end and behind its last line. -/
def Job.said (job : Job) : List Char :=
  closed (fed job.text)

namespace ChildServer

/-- A process that can be read to its end: its lines make up what it writes. -/
theorem toList_joinLines_outputLines {job : Job} (h : outputFailure job = none) :
    (joinLines (outputLines job)).toList = job.said := by
  obtain ⟨hpipe, hread⟩ := Option.or_eq_none_iff.mp h
  rw [outputLines, Job.said, Job.text, h]
  cases job.output with
  | none => rfl
  | some bytes =>
    simp only [outputText, hpipe, hread, Option.isSome_none, Bool.false_eq_true, if_false,
      Option.bind_none, Option.toList_none, List.append_nil]
    rw [toList_joinLines_splitFeeds, unifyLineEnds_eq_fed]
    rfl

/-- No line of a process has a line feed in it. -/
theorem notMem_outputLines {job : Job} (h : outputFailure job = none) :
    ∀ line ∈ outputLines job, '\n' ∉ line.toList := by
  intro line hline
  rw [outputLines, h] at hline
  cases hout : job.output with
  | none =>
    rw [hout] at hline
    cases hline
  | some bytes =>
    simp only [hout, Option.bind_none, Option.toList_none, List.append_nil, List.mem_map] at hline
    obtain ⟨piece, hpiece, rfl⟩ := hline
    rw [String.toList_ofList]
    exact notMem_feed hpiece

/-- **A process that cannot be read to its end**: its lines are those that have ended of the text
read so far and, for a failure of the system or of a value, one line about the failure. The line
that has not ended is lost. -/
theorem outputLines_of_pipeFailure {job : Job} {bytes : List UInt8} {failure : Failure}
    (houtput : job.output = some bytes) (hfails : job.pipeFailure = some failure)
    (hkind : failure.isSystemOrValue = true) :
    ∃ (lines : List String) (rest : List Char),
      outputLines job = lines ++ [s!"[supervisor] log reader error: {failure.text}"] ∧
      unifiedSoFar (Utf8.decodeSoFar bytes) = (joinLines lines).toList ++ rest ∧
      (∀ line ∈ lines, '\n' ∉ line.toList) ∧ '\n' ∉ rest := by
  obtain ⟨rest, htext, hrest⟩ := exists_ended_append (unifiedSoFar (Utf8.decodeSoFar bytes))
  refine ⟨(splitFeeds (ended (unifiedSoFar (Utf8.decodeSoFar bytes)))).map String.ofList, rest,
    ?_, ?_, ?_, hrest⟩
  · simp only [outputLines, houtput, outputText, outputFailure, hfails, failureLine?, hkind,
      Option.isSome_some, if_true, Option.some_or, Option.bind_some, Option.toList_some]
  · rw [toList_joinLines_splitFeeds, closed_of_isClosed (isClosed_ended _)]
    exact htext
  · intro line hline
    obtain ⟨piece, hpiece, rfl⟩ := List.mem_map.mp hline
    rw [String.toList_ofList]
    exact notMem_feed hpiece

/-- **The text read so far** begins what a process writes that goes on. -/
theorem soFar_prefix (bytes more : List UInt8) :
    unifiedSoFar (Utf8.decodeSoFar bytes) <+: fed (Utf8.decode (bytes ++ more)) := by
  obtain ⟨rest, htext⟩ := Utf8.decodeSoFar_prefix bytes more
  rw [← htext, ← unifyLineEnds_eq_fed]
  exact unifiedSoFar_prefix ..

/-! ## What all processes write -/

/-- The lines that all processes wrote, in the order in which they were launched. -/
def written (server : ChildServer) : List String :=
  (server.machine.jobs.map outputLines).toList.flatten

theorem written_of_jobs {server after : ChildServer}
    (h : after.machine.jobs = server.machine.jobs) : after.written = server.written := by
  rw [written, written, h]

theorem written_adopted (server : ChildServer) (arguments : List String)
    (directory : Option String) (port : Int) :
    (server.adopted arguments directory port).written =
      server.written ++ outputLines server.machine.next := by
  rw [written, adopted, adopting, Array.map_push, Array.toList_push, List.flatten_append,
    List.flatten_singleton]
  rfl

/-- The world around a server does not change what was written. -/
theorem written_under (server : ChildServer) (circumstances : Circumstances) :
    (server.under circumstances).written = server.written := by
  have hlines : outputLines ∘ circumstances.upon = outputLines := rfl
  rw [written, machine_under, Machine.under, Array.map_map, hlines, written]

/-- The end of a process does not change what was written. -/
theorem written_ending (server : ChildServer) (machine : Machine) (number : Nat) (code : Int)
    (hjobs : machine.jobs = server.machine.jobs) :
    ({ server with machine := machine.ending number code } : ChildServer).written =
      server.written := by
  have hlines : (machine.jobs.modify number fun job =>
      { job with ended := job.ended.or (some code) }).map outputLines =
        machine.jobs.map outputLines := by
    apply Array.ext_getElem?
    intro place
    rw [Array.getElem?_map, Array.getElem?_map, Array.getElem?_modify]
    split_ifs
    · cases machine.jobs[place]? <;> rfl
    · rfl
  rw [written, Machine.ending, hlines, hjobs, written]

end ChildServer

/-! ## The log in every run -/

/-- A ring of some capacity was written from the lines of all processes. -/
structure Logged (capacity : Nat) (server : ChildServer) : Prop where
  records : server.ring.Records server.written
  capacity_eq : server.ring.capacity = capacity

namespace Logged

variable {capacity : Nat} {server : ChildServer}

/-- Nothing was written, neither by a process nor into the ring. -/
theorem quiet (logged : Logged capacity server) {after : ChildServer}
    (hring : after.ring = server.ring) (hwritten : after.written = server.written) :
    Logged capacity after where
  records := by
    rw [hring, hwritten]
    exact logged.records
  capacity_eq := by rw [hring, logged.capacity_eq]

theorem under (logged : Logged capacity server) (circumstances : Circumstances) :
    Logged capacity (server.under circumstances) :=
  logged.quiet rfl (ChildServer.written_under ..)

/-- The output of a process that is launched goes into the ring. -/
theorem adopted (logged : Logged capacity server) (arguments : List String)
    (directory : Option String) (port : Int) :
    Logged capacity (server.adopted arguments directory port) where
  records := by
    rw [ChildServer.written_adopted]
    exact logged.records.appendAll _
  capacity_eq := (ServerLog.Ring.capacity_appendAll ..).trans logged.capacity_eq

theorem start (logged : Logged capacity server) {directory : Option String} {level : Int}
    {outcome : Except Failure Int} {after : ChildServer}
    (h : ChildServer.Starts server directory level outcome after)
    (htaken : server.machine.launchFailure = none →
      ∀ text ∈ directory, Failure.ofText? text = none)
    (hthreaded : server.machine.threadFailure = none) : Logged capacity after := by
  cases h with
  | running | unresolved | missing | unwritten | unplaced => exact logged
  | failed => exact logged.quiet rfl rfl
  | unread path place failure hidle hresolve hplace hlaunch hport =>
    -- Its output would be lost, but there is a port whenever a process is launched.
    exact absurd hport (Webif.portOf_ne_error (htaken hlaunch))
  | unheard path place port failure hidle hresolve hplace hlaunch hport hreader =>
    rw [hthreaded, Job.readerFailure_none] at hreader
    cases hreader
  | launched => exact logged.adopted ..

theorem stop (logged : Logged capacity server) {outcome : Except Failure Unit}
    {after : ChildServer} (h : ChildServer.Stops server outcome after) :
    Logged capacity after := by
  cases h with
  | idle => exact logged
  | failed => exact logged.quiet rfl rfl
  | untimed => exact logged.quiet rfl (ChildServer.written_of_jobs (jobs_untimed ..))
  | asked => exact logged.quiet rfl (ChildServer.written_of_jobs (jobs_asked ..))

theorem fire (logged : Logged capacity server) {position : Int} {after : ChildServer}
    (h : ChildServer.Fires server position after) : Logged capacity after := by
  cases h with
  | nothing => exact logged
  | failed => exact logged.quiet rfl rfl
  | killed => exact logged.quiet rfl (ChildServer.written_ending _ _ _ _ rfl)

theorem exit (logged : Logged capacity server) (position code : Int) :
    Logged capacity (ChildServer.exit position code server).state := by
  rw [ChildServer.state_exit]
  cases numberAt position server.machine.jobs.size with
  | error => exact logged
  | ok number => exact logged.quiet rfl (ChildServer.written_ending _ _ _ _ rfl)

/-- **Every step** keeps the ring and the lines of the processes together, if there is a thread to
read them. -/
theorem step (logged : Logged capacity server) {step : Step} (hpossible : step.IsPossible)
    (hthreaded : step.circumstances.IsThreaded) : Logged capacity (step.report server).state := by
  have hunder := logged.under step.circumstances
  obtain ⟨circumstances, deed⟩ := step
  cases deed with
  | start directory level =>
    rw [Step.report, state_start]
    exact hunder.start (ChildServer.starts _ directory level) (hpossible directory level rfl)
      hthreaded
  | stop => exact hunder.stop (ChildServer.stops _)
  | exit position code => exact hunder.exit position code
  | fire position => exact hunder.fire (ChildServer.fires _ position)

/-- **Every run** keeps the ring and the lines of the processes together. -/
theorem after (logged : Logged capacity server) {steps : List Step}
    (hpossible : ∀ step ∈ steps, step.IsPossible)
    (hthreaded : ∀ step ∈ steps, step.circumstances.IsThreaded) :
    Logged capacity (after server steps) := by
  induction steps using List.reverseRecOn with
  | nil => exact logged
  | append_singleton steps step ih =>
    rw [after_append]
    exact (ih (fun step hstep => hpossible step (List.mem_append_left _ hstep))
      fun step hstep => hthreaded step (List.mem_append_left _ hstep)).step
      (hpossible step (by simp)) (hthreaded step (by simp))

end Logged

theorem logged_fresh (program : String) (capacity : Nat) (room : 0 < capacity)
    (grace : Numeric.Reading) :
    Logged capacity (.fresh program (.empty capacity room) grace) where
  records := by
    have hnone : (ChildServer.fresh program (.empty capacity room) grace).written = [] := by
      simp [ChildServer.written, ChildServer.fresh]
    rw [hnone]
    exact ServerLog.Ring.records_empty capacity room
  capacity_eq := rfl

/-- What all processes wrote is made up of their lines. -/
theorem toList_joinLines_written {server : ChildServer}
    (h : ∀ job ∈ server.machine.jobs, ChildServer.outputFailure job = none) :
    (joinLines server.written).toList = server.machine.jobs.toList.flatMap Job.said := by
  rw [ChildServer.written, Array.toList_map, ← List.flatMap_def, toList_joinLines_flatMap]
  exact List.flatMap_congr fun job hjob =>
    ChildServer.toList_joinLines_outputLines (h job (Array.mem_toList_iff.mp hjob))

theorem notMem_written {server : ChildServer}
    (h : ∀ job ∈ server.machine.jobs, ChildServer.outputFailure job = none) :
    ∀ line ∈ server.written, '\n' ∉ line.toList := by
  intro line hline
  rw [ChildServer.written, Array.toList_map, ← List.flatMap_def, List.mem_flatMap] at hline
  obtain ⟨job, hjob, hline⟩ := hline
  exact ChildServer.notMem_outputLines (h job (Array.mem_toList_iff.mp hjob)) line hline

theorem outcome_logLines (wanted count : Int) (server : ChildServer) :
    (ChildServer.logLines wanted count server).outcome =
      .ok (some (server.ring.text wanted count).1, ((server.ring.text wanted count).2 : Int)) :=
  rfl

/-- A start that succeeds puts the output of the next process into the ring. -/
theorem ring_of_start {server : ChildServer} {directory : Option String} {level : Int}
    (h : (ChildServer.start directory level server).outcome = .ok 0) :
    (ChildServer.start directory level server).state.ring =
      server.ring.appendAll (ChildServer.outputLines server.machine.next) := by
  have hend := ChildServer.starts server directory level
  generalize (ChildServer.start directory level server).state = after at hend ⊢
  generalize (ChildServer.start directory level server).outcome = outcome at h hend
  cases hend with
  | launched => rfl
  | running | unresolved | missing | unwritten | unplaced | unread | unheard => cases h
  | failed path place failure =>
    split_ifs at h
    exact absurd (Except.ok.inj h) (ChildServer.launchCode_ne_zero failure)

/-- **The output of the server is handed out as it was written**, after every run, with a line feed
for every line end and behind the last line of each process: as many lines as it has line feeds,
the whole text if the ring has room for it, and otherwise as many of its last lines as the ring
retains. When reading a process fails because of the system or a value, the lines that ended before
are in the ring, and one line about the failure behind them. -/
theorem output_handed_out (program : String) (capacity : Nat) (room : 0 < capacity)
    (grace : Numeric.Reading) (steps : List Step) (hpossible : ∀ step ∈ steps, step.IsPossible)
    (hthreaded : ∀ step ∈ steps, step.circumstances.IsThreaded) :
    let server := after (.fresh program (.empty capacity room) grace) steps
    let said := server.machine.jobs.toList.flatMap Job.said
    ((∀ job ∈ server.machine.jobs, ChildServer.outputFailure job = none) →
      server.ring.total = said.count '\n' ∧
      (∀ count : Int, said.count '\n' ≤ count →
        (ChildServer.logLines 0 count server).outcome =
          .ok (some (String.ofList (lastLines capacity said)), (said.count '\n' : Int))) ∧
      (said.count '\n' ≤ capacity → lastLines capacity said = said)) ∧
    ∀ circumstances directory level bytes failure,
      (ChildServer.start directory level (server.under circumstances)).outcome = .ok 0 →
      circumstances.next.output = some bytes → circumstances.next.pipeFailure = some failure →
      failure.isSystemOrValue = true →
      let later := (ChildServer.start directory level (server.under circumstances)).state
      ∃ (lines : List String) (rest : List Char),
        unifiedSoFar (Utf8.decodeSoFar bytes) = (joinLines lines).toList ++ rest ∧
        (∀ line ∈ lines, '\n' ∉ line.toList) ∧ '\n' ∉ rest ∧
        (∀ more, (joinLines lines).toList ++ rest <+: fed (Utf8.decode (bytes ++ more))) ∧
        later.ring.total = server.ring.total + lines.length + 1 ∧
        server.ring.Records server.written ∧
        later.ring.Records
          (server.written ++ lines ++ [s!"[supervisor] log reader error: {failure.text}"]) := by
  intro server said
  have logged : Logged capacity server :=
    (logged_fresh program capacity room grace).after hpossible hthreaded
  refine ⟨fun hreadable => ?_, fun circumstances directory level bytes failure hstart houtput hfails
    hkind => ?_⟩
  · -- The lines of the history make up the text, so lines of one are counted and dropped as lines
    -- of the other.
    have hsaid : (joinLines server.written).toList = said := toList_joinLines_written hreadable
    have hfeeds := notMem_written hreadable
    have hcount : said.count '\n' = server.written.length := by
      rw [← hsaid, count_joinLines hfeeds]
    refine ⟨logged.records.total_eq.trans hcount.symm, fun count hall => ?_,
      fun hroom => lastLines_of_le hroom⟩
    rw [hcount] at hall
    rw [outcome_logLines, logged.records.text_all hall, ← hsaid, lastLines_joinLines hfeeds,
      logged.capacity_eq, String.ofList_toList, hsaid, hcount]
  · -- What the process adds to the ring are its ended lines and one about the failure.
    intro later
    have hring : later.ring = server.ring.appendAll (ChildServer.outputLines circumstances.next) :=
      ring_of_start hstart
    obtain ⟨lines, rest, hlines, htext, hfeeds, hrest⟩ :=
      ChildServer.outputLines_of_pipeFailure houtput hfails hkind
    rw [hlines] at hring
    refine ⟨lines, rest, htext, hfeeds, hrest, fun more => ?_, ?_, logged.records, ?_⟩
    · rw [← htext]
      exact ChildServer.soFar_prefix bytes more
    · rw [hring, (logged.records.appendAll _).total_eq, logged.records.total_eq]
      simp only [List.length_append, List.length_singleton, Nat.add_assoc]
    · rw [hring, List.append_assoc]
      exact logged.records.appendAll _

/-! ## A process that writes -/

/-- A program, and a process that writes a text of ASCII characters. -/
def writing (text : String) (pipeFailure : Option Failure) : Circumstances where
  tree := { entries := [(["s"], .file [] 0o755)] }
  next := { output := some (text.toList.map fun c => UInt8.ofNat c.toNat), pipeFailure }

/-- A start that launches the process. -/
def writingStart (text : String) : Step :=
  ⟨writing text none, .start none 0⟩

theorem isPossible_writingStart (text : String) : (writingStart text).IsPossible := by
  rintro _ _ hdeed - directory hdirectory
  obtain ⟨rfl, -⟩ := Deed.start.inj hdeed
  cases hdirectory

/-- The program of a server that does not run is found, and its process launched. -/
theorem start_writing {server : ChildServer} (hidle : server.alive? = none)
    (hprogram : server.program = "/s") (text : String) (pipeFailure : Option Failure) :
    (ChildServer.start none 0 (server.under (writing text pipeFailure))).outcome = .ok 0 ∧
      (ChildServer.start none 0 (server.under (writing text pipeFailure))).state =
        (server.under (writing text pipeFailure)).adopted ["/s"] none Webif.defaultPort := by
  have hfile : (writing text pipeFailure).tree.find [] "/s" = .ok ["s"] :=
    Files.Tree.find_of_walk _ (by decide +kernel) (by decide) (by decide) (by decide +kernel) rfl
  have hresolve : (server.under (writing text pipeFailure)).resolve = .ok (some "/s") :=
    ChildServer.resolve_named hprogram (by decide +kernel) (by decide +kernel) hfile rfl rfl
  exact ChildServer.start_of_found ((alive?_under ..).trans hidle) hresolve rfl rfl rfl rfl rfl

/-- A server with room for two lines, before it is started. -/
abbrev narrow : ChildServer :=
  .fresh "/s" (.empty 2 (by decide)) 5

/-- Reading fails because of the system. -/
def unreadable : Failure :=
  .ofNumber 5 "Input/output error"

theorem jobs_narrow (text : String) :
    (after narrow [writingStart text]).machine.jobs.toList = [(writing text none).next] := by
  have hstate : after narrow [writingStart text] = _ :=
    (state_start ..).trans (start_writing rfl rfl text none).2
  rw [hstate, ChildServer.adopted, ChildServer.adopting]
  simp [narrow, ChildServer.fresh, ChildServer.under, Machine.under]

/-- A process writes three lines with different line ends, one of them empty, into a ring with room
for two. Another one fails to be read in its second line, which is lost. -/
theorem output_handed_out_mixed :
    (after narrow [writingStart "one\r\n\rtwo"]).ring.total = 3 ∧
      (ChildServer.logLines 0 10 (after narrow [writingStart "one\r\n\rtwo"])).outcome =
        .ok (some "\ntwo\n", 3) ∧
      (ChildServer.start none 0
        (narrow.under (writing "one\ntwo" (some unreadable)))).state.ring.total = 2 := by
  have hjobs := jobs_narrow "one\r\n\rtwo"
  have hsaid : (after narrow [writingStart "one\r\n\rtwo"]).machine.jobs.toList.flatMap Job.said =
      "one\n\ntwo\n".toList := by
    rw [hjobs]
    decide +kernel
  have hread : ∀ job ∈ (after narrow [writingStart "one\r\n\rtwo"]).machine.jobs,
      ChildServer.outputFailure job = none := by
    intro job hjob
    rw [← Array.mem_toList_iff, hjobs, List.mem_singleton] at hjob
    rw [hjob]
    rfl
  have hcount : "one\n\ntwo\n".toList.count '\n' = 3 := by decide
  have hlast : String.ofList (lastLines 2 "one\n\ntwo\n".toList) = "\ntwo\n" := by decide +kernel
  obtain ⟨htotal, hlines, -⟩ := (output_handed_out "/s" 2 (by decide) 5
    [writingStart "one\r\n\rtwo"] (by simpa using isPossible_writingStart _)
    (by simp [writingStart, writing, Circumstances.IsThreaded])).1 hread
  have hstart : (ChildServer.start none 0
      (narrow.under (writing "one\ntwo" (some unreadable)))).outcome = .ok 0 :=
    (start_writing rfl rfl _ _).1
  obtain ⟨lines, rest, htext, hfeeds, hrest, -, hmore, -⟩ := (output_handed_out "/s" 2 (by decide) 5
    [] (by simp) (by simp)).2 (writing "one\ntwo" (some unreadable)) none 0 _ unreadable hstart rfl
    rfl rfl
  have hlength : lines.length = 1 := by
    have hread : (unifiedSoFar (Utf8.decodeSoFar
        ("one\ntwo".toList.map fun c => UInt8.ofNat c.toNat))).count '\n' = 1 := by decide +kernel
    rw [htext, List.count_append, count_joinLines hfeeds, List.count_eq_zero_of_not_mem hrest] at hread
    exact hread
  rw [hsaid, hcount] at htotal hlines
  rw [hlast] at hlines
  rw [hlength] at hmore
  exact ⟨htotal, hlines 10 (by decide), hmore⟩

end Warden.Server
