import Warden.Proofs.Files.Route
import Warden.Proofs.Server.Commands

/-!
# What a child makes of its command line

A child changes into the directory that it is launched in, and looks up the texts of its command
line from there. A program with a separator in its name is looked up from there as well, any other
along the search path. The server has looked them up from its own working directory, so both mean
the same only if the texts are absolute, or if the child stays in that directory.

## Main definitions

* `Tree.workplace`: the place that a child works in
* `Tree.executable?`, `Tree.executed?`: the program that a name stands for in a place
* `Machine.Attempts`: a command that tries to create a process

## Main results

* `attempts_start`: with which command line, and in which directory, a start creates a process
* `program_checked`: when the program that is executed is the one that was checked
* `directory_shared`: when the server and the child mean the same directory
-/

namespace Warden.Files.Tree

variable (tree : Tree)

/-- The place that a child works in: it changes into the directory that it is launched in, if there
is one. -/
def workplace : Option String → Except Obstacle Place
  | none => .ok tree.workingDirectory
  | some directory => tree.find tree.workingDirectory directory

/-- The place of the executable file that a text names when looked up from a place. -/
def executable? (here : Place) (text : String) : Option Place :=
  match tree.find here text with
  | .ok place => if (tree.entry? place).any Entry.isExecutable then some place else none
  | .error _ => none

/-- The directories of a search path, in order. -/
def searched (searchPath : String) : List String :=
  (Text.splitAtEach (· == ':') searchPath.toList).map String.ofList

/-- The program that a process in a place executes. A name with a separator is looked up from there,
any other along the search path. -/
def executed? (searchPath : String) (here : Place) (name : String) : Option Place :=
  if name.contains separator then tree.executable? here name
  else (searched searchPath).findSome? fun directory =>
    tree.executable? here (joined directory name)

theorem isExecutable_eq (text : String) :
    tree.isExecutable text = (tree.executable? tree.workingDirectory text).isSome := by
  rw [isExecutable, lookUp, executable?]
  cases tree.find tree.workingDirectory text with
  | error obstacle => rfl
  | ok place =>
    simp only [bind, Except.bind]
    cases tree.entry? place with
    | none => rfl
    | some entry => cases hexec : entry.isExecutable <;> simp [hexec]

/-- An executable file is found at its place. -/
theorem find_of_executable? {here place : Place} {text : String}
    (h : tree.executable? here text = some place) : tree.find here text = .ok place := by
  rw [executable?] at h
  split at h
  · next found hfind =>
    split_ifs at h
    rwa [← Option.some.inj h]
  · cases h

/-- An absolute text names the same executable file from everywhere. -/
theorem executable?_absolute {text : String} (h : (Route.ofText text).isAbsolute = true)
    (here other : Place) : tree.executable? here text = tree.executable? other text := by
  rw [executable?, executable?, tree.find_absolute h here other]

/-- The first directory in which a program is found gives its place. -/
theorem findSome?_of_find? {here : Place} {name path : String} {directories : List String}
    (h : (directories.map (joined · name)).find?
      (fun text => (tree.executable? here text).isSome) = some path) :
    directories.findSome? (fun directory => tree.executable? here (joined directory name)) =
      tree.executable? here path := by
  induction directories with
  | nil => simp at h
  | cons directory directories ih =>
    rw [List.map_cons] at h
    cases hfound : tree.executable? here (joined directory name) with
    | none =>
      rw [List.find?_cons_of_neg (by simp [hfound])] at h
      rw [List.findSome?_cons_of_isNone (by simp [hfound]), ih h]
    | some place =>
      rw [List.find?_cons_of_pos (by simp [hfound])] at h
      rw [← Option.some.inj h, List.findSome?_cons_of_isSome (by simp [hfound]), hfound]

end Warden.Files.Tree

namespace Warden.Server

open Warden.Files

namespace ChildServer

variable {server : ChildServer} {directory : Option String} {level : Int} {path : String}

/-- A text with a separator that starts the route at the root. -/
theorem contains_of_isAbsolute {text : String} (h : (Route.ofText text).isAbsolute = true) :
    text.contains separator = true := by
  have hhead : text.toList.head? = some separator := by simpa [Route.ofText] using h
  simpa using List.mem_of_mem_head? hhead

/-- **The program that is found** is an executable file. -/
theorem executable?_of_resolve (h : server.resolve = .ok (some path)) :
    ∃ file, server.machine.tree.executable? server.machine.tree.workingDirectory path =
      some file := by
  refine Option.isSome_iff_exists.mp ?_
  rw [← Tree.isExecutable_eq]
  rw [resolve] at h
  split at h
  · cases hfile : server.machine.tree.isFile (Path.ofText server.program).text with
    | error failure =>
      simp only [hfile, bind, Except.bind] at h
      cases h
    | ok isFile =>
      simp only [hfile, bind, Except.bind] at h
      have hpath := Except.ok.inj h
      split_ifs at hpath with _ hexec
      rwa [← Option.some.inj hpath]
  · have hpath := Except.ok.inj h
    rw [Tree.which] at hpath
    split_ifs at hpath
    exact List.find?_some hpath

/-- A program that is named by a path to an executable file. -/
theorem resolve_of_find {place : Place} {content : List UInt8} {mode : Nat}
    (hname : server.program.contains separator = true)
    (hfind : server.machine.tree.find server.machine.tree.workingDirectory
      (Path.ofText server.program).text = .ok place)
    (hentry : server.machine.tree.entry? place = some (.file content mode))
    (hmode : (Entry.file content mode).isExecutable = true) :
    server.resolve = .ok (some (Path.ofText server.program).text) := by
  have hlook : server.machine.tree.lookUp (Path.ofText server.program).text =
      .ok (.file content mode) := by
    simp only [Tree.lookUp, hfind, bind, Except.bind, hentry]
  rw [resolve, hname, if_pos rfl]
  simp only [Tree.isFile, Tree.ask, hlook, Tree.isExecutable, hmode, bind, Except.bind, if_true]
  rfl

/-- A program whose name has a separator is the file that the normal form of its name leads to. -/
theorem resolve_named {program path : String} {place : Place} {content : List UInt8} {mode : Nat}
    (hprogram : server.program = program) (hname : program.toList.contains separator = true)
    (hpath : (Path.ofText program).text = path)
    (hfind : server.machine.tree.find server.machine.tree.workingDirectory path = .ok place)
    (hentry : server.machine.tree.entry? place = some (.file content mode))
    (hmode : (Entry.file content mode).isExecutable = true) :
    server.resolve = .ok (some path) := by
  subst hprogram hpath
  refine resolve_of_find ?_ hfind hentry hmode
  rw [String.contains_char_eq]
  simpa using hname

/-- A directory that is there is the one that the child is launched in. -/
theorem launchDirectory_of_find {text : String} {place : Place} (hne : text.isEmpty = false)
    (hfind : server.machine.tree.find server.machine.tree.workingDirectory
      (Path.ofText text).text = .ok place)
    (hentry : server.machine.tree.entry? place = some .directory) :
    server.launchDirectory (some text) = .ok (some text) := by
  have hlook : server.machine.tree.lookUp (Path.ofText text).text = .ok .directory := by
    simp only [Tree.lookUp, hfind, bind, Except.bind, hentry]
  have hnonempty : Text.nonEmpty? text = some text := by
    rw [Text.nonEmpty?, hne, if_neg Bool.false_ne_true]
  simp only [launchDirectory, Option.bind_some, hnonempty, Tree.isDirectory, Tree.ask, hlook, bind,
    Except.bind, if_true]
  rfl

/-- A directory and a name without any separator are the name alone. -/
theorem joined_eq_name {place name : String} (h : (joined place name).contains separator = false) :
    joined place name = name := by
  have hfree : separator ∉ (joined place name).toList := by simpa using h
  rw [joined] at hfree ⊢
  split_ifs at hfree ⊢ with hplace
  · rw [Bool.or_eq_true, beq_iff_eq] at hplace
    rcases hplace with hempty | hlast
    · simp [String.isEmpty_iff.mp hempty]
    · exact absurd (List.mem_of_getLast? hlast) fun hmem => hfree (by simp [hmem])
  · exact absurd (by simp [separator]) hfree

/-- A program without a separator in its name is found as a child in the same directory finds
it. -/
theorem executed?_of_name (hname : server.program.contains separator = false)
    (h : server.resolve = .ok (some path)) :
    server.machine.tree.executed? server.machine.searchPath server.machine.tree.workingDirectory
      path = server.machine.tree.executable? server.machine.tree.workingDirectory path := by
  rw [Tree.executed?]
  split_ifs with hpath
  · rfl
  · rw [resolve, hname] at h
    have hwhich := Except.ok.inj h
    rw [Tree.which] at hwhich
    split_ifs at hwhich
    -- Without a separator, the path is the name itself, found in the working directory.
    obtain ⟨place, -, hplace⟩ := List.mem_map.mp (List.mem_of_find?_eq_some hwhich)
    have hself : path = server.program :=
      hplace ▸ joined_eq_name (hplace ▸ Bool.eq_false_iff.mpr hpath)
    rw [hself] at hwhich ⊢
    refine Tree.findSome?_of_find? _ ?_
    simp only [← Tree.isExecutable_eq]
    exact hwhich

end ChildServer

/-! ## Starts that create a process -/

/-- A start tries to create a process: its command line and the directory it is launched in. -/
def Attempts (server : ChildServer) (directory : Option String) (level : Int)
    (command : List String) (place : Option String) : Prop :=
  (ChildServer.start directory level server).state.machine.events =
    .launched command place :: server.machine.events

/-- **A process is created** with the program that was found, and in the directory that the server
is told, if that is one. -/
theorem attempts_start {server : ChildServer} {directory : Option String} {level : Int}
    {command : List String} {place : Option String}
    (h : Attempts server directory level command place) :
    ∃ path, server.resolve = .ok (some path) ∧ server.launchDirectory directory = .ok place ∧
      command = ChildServer.arguments path directory level := by
  have hend := ChildServer.starts server directory level
  rw [Attempts] at h
  generalize (ChildServer.start directory level server).state = after at h hend
  generalize (ChildServer.start directory level server).outcome = outcome at hend
  cases hend with
  | running | unresolved | missing | unwritten | unplaced => simp at h
  | failed path found _ _ hresolve hplace | unread path found _ _ hresolve hplace
  | unheard path found _ _ _ hresolve hplace | launched path found _ _ hresolve hplace =>
    obtain ⟨hcommand, hfound⟩ := Event.launched.inj (List.cons.inj h).1
    exact ⟨path, hresolve, hfound ▸ hplace, hcommand.symm⟩

/-- A start that finds everything tries to create a process, whatever comes of it. -/
theorem attempts_of_found {server : ChildServer} {directory : Option String} {level : Int}
    {path : String} {place : Option String} (hidle : server.alive? = none)
    (hresolve : server.resolve = .ok (some path))
    (hplace : server.launchDirectory directory = .ok place)
    (hcommand : ChildServer.command path directory level =
      .ok (ChildServer.arguments path directory level)) :
    Attempts server directory level (ChildServer.arguments path directory level) place := by
  have hend := ChildServer.starts server directory level
  rw [Attempts]
  generalize (ChildServer.start directory level server).state = after at hend ⊢
  generalize (ChildServer.start directory level server).outcome = outcome at hend
  cases hend with
  | unwritten found _ _ hfound hunwritten =>
    obtain rfl := Option.some.inj (Except.ok.inj (hfound.symm.trans hresolve))
    cases hunwritten.symm.trans hcommand
  | failed found there _ _ hfound hthere | unread found there _ _ hfound hthere
  | unheard found there _ _ _ hfound hthere | launched found there _ _ hfound hthere =>
    obtain rfl := Option.some.inj (Except.ok.inj (hfound.symm.trans hresolve))
    obtain rfl := Except.ok.inj (hthere.symm.trans hplace)
    rfl
  | _ => simp_all

/-- A child is launched in the directory that the server is told, or where the server is. -/
theorem place_of_launchDirectory {server : ChildServer} {directory : String}
    {place : Option String}
    (h : server.launchDirectory (some directory) = .ok place) :
    place = none ∨ place = some directory := by
  rw [ChildServer.launchDirectory] at h
  split at h
  · exact .inl (Except.ok.inj h).symm
  · next text htext =>
    have htext : text = directory := by
      rw [Option.bind_some, Text.nonEmpty?] at htext
      split_ifs at htext
      exact (Option.some.inj htext).symm
    cases hplace : server.machine.tree.isDirectory (Path.ofText text).text with
    | error failure =>
      simp only [hplace, bind, Except.bind] at h
      cases h
    | ok isDirectory =>
      simp only [hplace, bind, Except.bind] at h
      have hfound := Except.ok.inj h
      split_ifs at hfound
      · exact .inr (htext ▸ hfound.symm)
      · exact .inl hfound.symm

/-! ## The program -/

/-- **The program that is executed** is the one that was found and tested, if its path is absolute,
or if the child works in the directory of the server and the name has not lost its separator. A
relative path without `..` names another program in every other directory. -/
theorem program_checked {server : ChildServer} {directory : Option String} {level : Int}
    {command : List String} {place : Option String}
    (h : Attempts server directory level command place) :
    let tree := server.machine.tree
    ∃ path file, command.head? = some path ∧ server.resolve = .ok (some path) ∧
      tree.executable? tree.workingDirectory path = some file ∧
      ∀ here, tree.workplace place = .ok here →
        ((Route.ofText path).isAbsolute = true ∨ here = tree.workingDirectory ∧
            (path.contains separator = true ∨ server.program.contains separator = false) →
          tree.executed? server.machine.searchPath here path = some file) ∧
        ((Route.ofText path).isAbsolute = false → path.contains separator = true →
          ".." ∉ (Route.ofText path).names → here ≠ tree.workingDirectory →
          tree.executed? server.machine.searchPath here path ≠ some file) := by
  intro tree
  obtain ⟨path, hresolve, -, rfl⟩ := attempts_start h
  obtain ⟨file, hfile⟩ := ChildServer.executable?_of_resolve hresolve
  refine ⟨path, file, rfl, hresolve, hfile, fun here _ => ⟨?_, ?_⟩⟩
  · rintro (habsolute | ⟨rfl, hpath | hname⟩)
    · rw [Tree.executed?, if_pos (ChildServer.contains_of_isAbsolute habsolute),
        tree.executable?_absolute habsolute here tree.workingDirectory, hfile]
    · rw [Tree.executed?, if_pos hpath, hfile]
    · rw [ChildServer.executed?_of_name hname hresolve, hfile]
  · intro hrelative hpath hup hother hsame
    rw [Tree.executed?, if_pos hpath] at hsame
    have hchild := tree.find_below hrelative hup (tree.find_of_executable? hsame)
    have hserver := tree.find_below hrelative hup (tree.find_of_executable? hfile)
    exact hother (List.append_cancel_right (hchild.symm.trans hserver))

/-! ## The directory -/

/-- **The directory that the child is told** is the one that the server means, if its text is
absolute, if the child is not launched in it, or if it leads to itself. A relative text without
`..` that names another directory leads elsewhere from there. The port is read from the file in the
directory that the server means. -/
theorem directory_shared {server : ChildServer} {directory : String} (hne : directory ≠ "")
    {level : Int} {command : List String} {place : Option String}
    (h : Attempts server (some directory) level command place) :
    let tree := server.machine.tree
    (∃ words, command = words ++ ["-c", directory]) ∧
      (∀ here, tree.workplace place = .ok here →
        ((Route.ofText directory).isAbsolute = true ∨ place = none ∨
            tree.find here directory = .ok here →
          tree.find here directory = tree.find tree.workingDirectory directory) ∧
        ((Route.ofText directory).isAbsolute = false → place ≠ none →
          ".." ∉ (Route.ofText directory).names → here ≠ tree.workingDirectory →
          tree.find here directory ≠ tree.find tree.workingDirectory directory)) ∧
      ∀ there file, tree.find tree.workingDirectory directory = .ok there →
        tree.find tree.workingDirectory (Webif.filePath directory) = .ok file →
        file = there ++ [Webif.fileName] := by
  intro tree
  obtain ⟨path, -, hplace, rfl⟩ := attempts_start h
  have hnonempty : Text.nonEmpty? directory = some directory := by
    rw [Text.nonEmpty?, if_neg (by simpa using hne)]
  refine ⟨?_, fun here hhere => ⟨?_, ?_⟩, fun there file hthere hfile => ?_⟩
  · exact ⟨path :: if 0 < level then ["-d", toString level] else [],
      by simp [ChildServer.arguments, hnonempty]⟩
  · rintro (habsolute | rfl | hself)
    · exact tree.find_absolute habsolute here tree.workingDirectory
    · obtain rfl := Except.ok.inj hhere
      rfl
    · rcases place_of_launchDirectory hplace with rfl | rfl
      · obtain rfl := Except.ok.inj hhere
        rfl
      · exact hself.trans hhere.symm
  · intro hrelative hlaunched hup hother hsame
    obtain rfl := (place_of_launchDirectory hplace).resolve_left hlaunched
    have hserver := tree.find_below hrelative hup hhere
    have hchild := tree.find_below hrelative hup (hsame.trans hhere)
    -- The names lead from the directory to itself only if there are none.
    rw [List.self_eq_append_right.mp hchild, List.append_nil] at hserver
    exact hother hserver
  · exact tree.find_child (by decide) (by decide) (by decide) hthere hfile

/-! ## A program and a directory that are mistaken -/

/-- A program in the working directory, with another one of its name on the search path; and a
configuration directory that holds another one of its name. -/
def homely (program : String) : ChildServer where
  program
  machine :=
    { tree :=
        { workingDirectory := ["w"]
          entries := [(["w"], .directory), (["w", "s"], .file [] 0o755), (["w", "bin"], .directory),
            (["w", "bin", "s"], .file [] 0o755), (["w", "c"], .directory),
            (["w", "c", "c"], .directory)] }
      searchPath := "bin" }

/-- The program is found in the working directory, whether it is named from there or from the
root. -/
theorem resolve_homely {program path : String} (hname : program.toList.contains separator = true)
    (hpath : (Path.ofText program).text = path)
    (hfind : (homely program).machine.tree.find ["w"] path = .ok ["w", "s"]) :
    (homely program).resolve = .ok (some path) :=
  ChildServer.resolve_named rfl hname hpath hfind rfl rfl

/-- **Another program** is executed than the one that was checked: `./s` is found in the working
directory and loses its separator, so it is searched for along the search path. -/
theorem other_program_executed :
    ∃ command place path, Attempts (homely "./s") none 0 command place ∧
      command.head? = some path ∧
      (homely "./s").machine.tree.executable? ["w"] path = some ["w", "s"] ∧
      (homely "./s").machine.tree.workplace place = .ok ["w"] ∧
      (homely "./s").machine.tree.executed? "bin" ["w"] path = some ["w", "bin", "s"] := by
  have hserver : (homely "./s").machine.tree.find ["w"] "s" = .ok ["w", "s"] :=
    Tree.find_of_walk _ (by decide +kernel) (by decide) (by decide) (by decide +kernel) rfl
  have hchild : (homely "./s").machine.tree.find ["w"] "bin/s" = .ok ["w", "bin", "s"] :=
    Tree.find_of_walk _ (by decide +kernel) (by decide) (by decide) (by decide +kernel) rfl
  have hresolve : (homely "./s").resolve = .ok (some "s") :=
    resolve_homely (by decide +kernel) (by decide +kernel) hserver
  have hjoined : (Tree.searched "bin").map (joined · "s") = ["bin/s"] := by decide +kernel
  refine ⟨["s"], none, "s", attempts_of_found rfl hresolve rfl rfl, rfl, ?_, rfl, ?_⟩
  · rw [Tree.executable?, hserver]
    rfl
  · have hname : "s".contains separator = false := by
      rw [String.contains_char_eq]
      decide +kernel
    have hsearch : (homely "./s").machine.tree.executed? "bin" ["w"] "s" =
        ["bin/s"].findSome? ((homely "./s").machine.tree.executable? ["w"]) := by
      rw [Tree.executed?, hname, if_neg Bool.false_ne_true, ← hjoined, List.findSome?_map]
      rfl
    rw [hsearch, List.findSome?_singleton, Tree.executable?, hchild]
    rfl

/-- A start of the program at an absolute path, with a directory in the working directory. -/
theorem attempts_homely {directory : String} (hne : directory.isEmpty = false)
    (hfind : (homely "/w/s").machine.tree.find ["w"] (Path.ofText directory).text =
      .ok ["w", "c"]) :
    Attempts (homely "/w/s") (some directory) 0
      (ChildServer.arguments "/w/s" (some directory) 0) (some directory) := by
  have hprogram : (homely "/w/s").machine.tree.find ["w"] "/w/s" = .ok ["w", "s"] :=
    Tree.find_of_walk _ (by decide +kernel) (by decide) (by decide) (by decide +kernel) rfl
  exact attempts_of_found rfl
    (resolve_homely (by decide +kernel) (by decide +kernel) hprogram)
    (ChildServer.launchDirectory_of_find hne hfind rfl) rfl

theorem find_homely_relative : (homely "/w/s").machine.tree.find ["w"] "c" = .ok ["w", "c"] :=
  Tree.find_of_walk _ (by decide +kernel) (by decide) (by decide) (by decide +kernel) rfl

theorem find_homely_absolute : (homely "/w/s").machine.tree.find ["w"] "/w/c" = .ok ["w", "c"] :=
  Tree.find_of_walk _ (by decide +kernel) (by decide) (by decide) (by decide +kernel) rfl

/-- **Another directory** is named for the child than the server means: the child is launched in `c`
and looks up `c` from there. -/
theorem other_directory_named :
    ∃ place here, Attempts (homely "/w/s") (some "c") 0 ["/w/s", "-c", "c"] place ∧
      (homely "/w/s").machine.tree.workplace place = .ok here ∧
      (homely "/w/s").machine.tree.find ["w"] "c" = .ok ["w", "c"] ∧
      (homely "/w/s").machine.tree.find here "c" = .ok ["w", "c", "c"] := by
  have hpath : (Path.ofText "c").text = "c" := by decide +kernel
  refine ⟨some "c", ["w", "c"], attempts_homely (by decide) ?_, find_homely_relative,
    find_homely_relative, ?_⟩
  · rw [hpath]
    exact find_homely_relative
  · exact Tree.find_of_walk _ (by decide +kernel) (by decide) (by decide) (by decide +kernel) rfl

/-- A program at an absolute path is executed from the configuration directory as it was checked. -/
theorem program_checked_absolute :
    ∃ command place here, Attempts (homely "/w/s") (some "c") 0 command place ∧
      (homely "/w/s").machine.tree.workplace place = .ok here ∧ here ≠ ["w"] ∧
      (homely "/w/s").machine.tree.executed? "bin" here "/w/s" =
        (homely "/w/s").machine.tree.executable? ["w"] "/w/s" := by
  have hpath : (Path.ofText "c").text = "c" := by decide +kernel
  have hstart : Attempts (homely "/w/s") (some "c") 0 ["/w/s", "-c", "c"] (some "c") :=
    attempts_homely (by decide) (by rw [hpath]; exact find_homely_relative)
  refine ⟨_, _, ["w", "c"], hstart, find_homely_relative, by decide, ?_⟩
  obtain ⟨path, file, hhead, -, hfile, hchild⟩ := program_checked hstart
  obtain rfl : "/w/s" = path := Option.some.inj hhead
  have habsolute : (Route.ofText "/w/s").isAbsolute = true := by decide +kernel
  exact ((hchild ["w", "c"] find_homely_relative).1 (.inl habsolute)).trans hfile.symm

/-- An absolute directory is the same for the child that is launched in it. -/
theorem directory_shared_absolute :
    ∃ place here, Attempts (homely "/w/s") (some "/w/c") 0 ["/w/s", "-c", "/w/c"] place ∧
      (homely "/w/s").machine.tree.workplace place = .ok here ∧ here ≠ ["w"] ∧
      (homely "/w/s").machine.tree.find here "/w/c" =
        (homely "/w/s").machine.tree.find ["w"] "/w/c" := by
  have hpath : (Path.ofText "/w/c").text = "/w/c" := by decide +kernel
  have hstart : Attempts (homely "/w/s") (some "/w/c") 0 ["/w/s", "-c", "/w/c"] (some "/w/c") :=
    attempts_homely (by decide) (by rw [hpath]; exact find_homely_absolute)
  refine ⟨_, ["w", "c"], hstart, find_homely_absolute, by decide, ?_⟩
  have habsolute : (Route.ofText "/w/c").isAbsolute = true := by decide +kernel
  obtain ⟨-, hchild, -⟩ := directory_shared (by decide) hstart
  exact (hchild ["w", "c"] find_homely_absolute).1 (.inl habsolute)

end Warden.Server
