import Warden.Proofs.Network.Endpoints
import Warden.Proofs.Numeric.Writing
import Warden.Proofs.Poller.Questions

/-!
# What is published of the status

A tick of the status asks the server and the network several times, and the answers may differ. What
is published in the end fits together nevertheless: the port is that of the answer which also says
whether the server runs, and every place is made of an address that was found and this port. The
observers of the network are told what is published. Only a port that is too long to be written stops
a tick halfway, after the addresses.

## Main definitions

* `Published`: what is published of the server and its network
* `Published.IsConsistent`: what is published fits together
* `PortsWritten`: every port that the server answers can be written
* `noting`: observers whose tidings are entered in the diary
* `Discreet`: observers that leave alone what is published
* `StatusHeard`: in a tick nobody fails who is told the status, and the network is observed then

## Main results

* `isConsistent_of`: the answers of a tick fit together
* `status_consistent`: so does what a tick publishes, and the observers of the network are told it
-/

namespace Warden

open Warden.Network (Separate)

/-! ## Consistency -/

/-- What is published of the server and its network. -/
structure Published where
  isRunning : Bool
  webifPort : Option Int
  endpoints : List Endpoint
  reach : Role → Reach

/-- What a display publishes. -/
def Display.published (display : Display) : Published where
  isRunning := display.isRunning
  webifPort := display.webifPort
  endpoints := display.endpoints
  reach := display.reach

namespace Published

/-- Where the web interface is reached in a role, with a port that is written in full. -/
def reachOf (endpoints : List Endpoint) (port : Option Int) (role : Role) : Reach where
  address := (role.endpoint? endpoints).map Endpoint.address
  url := (role.endpoint? endpoints).bind fun endpoint => port.map fun number =>
    endpoint.urlAt (toString number)

/-- What is to be published of an answer about the status and of endpoints. -/
def of (handle : Handle) (endpoints : List Endpoint) : Published where
  isRunning := handle.running
  webifPort := handle.webifPort
  endpoints
  reach := reachOf endpoints handle.webifPort

/-- What is published fits together: a positive port, and only if the server runs; for each role the
address of the endpoint in this role; the place at this address and port, if both are known; and
different addresses for different roles. -/
structure IsConsistent (published : Published) : Prop where
  port_pos : ∀ port, published.webifPort = some port → 0 < port
  port_running : published.webifPort ≠ none → published.isRunning = true
  address_iff : ∀ role address,
    (published.reach role).address = some address ↔ ⟨address, role⟩ ∈ published.endpoints
  url_iff : ∀ role url, (published.reach role).url = some url ↔ ∃ address port,
    (published.reach role).address = some address ∧ published.webifPort = some port ∧
      url = s!"http://{address}:{port}"
  dotted : ∀ role address, (published.reach role).address = some address → IsDottedQuad address
  quotable : ∀ role url, (published.reach role).url = some url → '\'' ∉ url.toList
  apart : ∀ address, (published.reach .primary).address = some address →
    (published.reach .accessPoint).address ≠ some address

/-- Where an address and a port are published, a place is. -/
theorem IsConsistent.url_ne_none {published : Published} (h : published.IsConsistent) {role : Role}
    {address : String} {port : Int} (haddress : (published.reach role).address = some address)
    (hport : published.webifPort = some port) : (published.reach role).url ≠ none := by
  rw [(h.url_iff role _).mpr ⟨address, port, haddress, hport, rfl⟩]
  exact Option.some_ne_none _

/-- The address in a role is that of the only endpoint in this role. -/
theorem address_reachOf {endpoints : List Endpoint} (h : Separate endpoints) {role : Role}
    {port : Option Int} {address : String} :
    (reachOf endpoints port role).address = some address ↔ ⟨address, role⟩ ∈ endpoints := by
  have hlast : ∀ endpoint, (endpoints.filter (·.role = role)).getLast? = some endpoint →
      endpoint ∈ endpoints ∧ endpoint.role = role := by
    intro endpoint hfound
    simpa using List.mem_of_getLast? hfound
  unfold reachOf Role.endpoint?
  cases hfound : (endpoints.filter (·.role = role)).getLast? with
  | none =>
    refine ⟨nofun, fun hmem => ?_⟩
    have hnone : endpoints.filter (·.role = role) = [] := List.getLast?_eq_none_iff.mp hfound
    exact (List.filter_eq_nil_iff.mp hnone _ hmem (by simp)).elim
  | some endpoint =>
    obtain ⟨hmem, hrole⟩ := hlast endpoint hfound
    constructor
    · rintro haddress
      obtain rfl := Option.some.inj haddress
      exact hrole ▸ hmem
    · intro hother
      rw [h.eq hmem hother (.inl hrole)]
      rfl

theorem url_reachOf {endpoints : List Endpoint} {role : Role} {port : Option Int} {url : String} :
    (reachOf endpoints port role).url = some url ↔ ∃ address number,
      (reachOf endpoints port role).address = some address ∧ port = some number ∧
        url = s!"http://{address}:{number}" := by
  unfold reachOf
  cases role.endpoint? endpoints with
  | none => simp
  | some endpoint =>
    cases port with
    | none => simp
    | some number =>
      simp only [Option.bind_some, Option.map_some, Option.some.injEq, exists_and_left,
        exists_eq_left']
      exact eq_comm

/-- The place in a role is written, if the port can be. -/
theorem place?_eq {endpoints : List Endpoint} {port : Option Int}
    (hport : ∀ number, port = some number → number.natAbs < 10 ^ Numeric.Literal.digitLimit)
    (role : Role) : role.place? endpoints port = .ok (reachOf endpoints port role).url := by
  unfold Role.place? reachOf
  cases role.endpoint? endpoints with
  | none => rfl
  | some endpoint =>
    cases port with
    | none => rfl
    | some number =>
      simp only [Endpoint.url, Numeric.Literal.write_of_lt (hport number rfl)]
      rfl

/-- The answers about the status are published, and the endpoints with them. -/
theorem published_withPlaces {display : Display} {handle : Handle} {endpoints : List Endpoint}
    (hrunning : display.isRunning = handle.running) (hport : display.webifPort = handle.webifPort) :
    (((display.withEndpoints endpoints).withPlace .primary
        (reachOf endpoints handle.webifPort .primary).url).withPlace .accessPoint
        (reachOf endpoints handle.webifPort .accessPoint).url).published = of handle endpoints := by
  simp only [Display.published, Display.withPlace, Display.withEndpoints, of, Published.mk.injEq]
  refine ⟨hrunning, hport, trivial, ?_⟩
  funext role
  cases role <;> rfl

/-- **The answers of a tick fit together.** -/
theorem isConsistent_of {around : Surroundings ε} {handle : Handle}
    (hhandle : handle.IsProper around) {endpoints : List Endpoint}
    (h : Separate endpoints) : (of handle endpoints).IsConsistent where
  port_pos := hhandle.port_pos
  port_running := hhandle.port_running
  address_iff _ _ := address_reachOf h
  url_iff _ _ := url_reachOf
  dotted role address haddress := h.dotted _ ((address_reachOf h).mp haddress)
  quotable role url hurl := by
    obtain ⟨address, port, haddress, hport, rfl⟩ := url_reachOf.mp hurl
    have hmem := (address_reachOf h).mp haddress
    exact (isPlain_urlAt (h.dotted _ hmem) (hhandle.port_pos port hport)).quotable
  apart address hprimary haccessPoint := by
    have hfirst := (address_reachOf h).mp hprimary
    have hsecond := (address_reachOf h).mp haccessPoint
    cases h.eq hfirst hsecond (.inr rfl)

end Published

namespace Poller

open Warden.Numeric (Reading)
open Warden.Act (Keeps Yields)

variable {ω ε α : Type}

/-! ## Observers -/

/-- An observer is told something, which is entered in the diary. -/
def noting (call : ω → Notice → Act (Noted ω ε) Unit) (observer : ω) (notice : Notice) :
    Act (Noted ω ε) Unit := do
  enter (.told observer notice)
  call observer notice

/-- Observers that leave alone what is published, and tell no observer of the network anything. -/
structure Discreet (call : ω → Notice → Act (Noted ω ε) Unit) : Prop where
  published : ∀ observer notice s,
    (call observer notice s).state.world.display.published = s.world.display.published
  entries : ∀ observer notice s, ∃ new, (call observer notice s).state.world.entries =
    new ++ s.world.entries ∧ ∀ entry ∈ new, ¬entry.concerns .network

/-- The observers of the status are told about it. -/
def tellStatus (call : ω → Notice → Act (Noted ω ε) Unit) (handle : Handle) : Act (Noted ω ε) Unit := do
  tell (noting call) (← look statusObservers) (.status handle)

/-- Every port that the server answers can be written. -/
def PortsWritten (around : Surroundings ε) : Prop :=
  ∀ world port, (around.service.webifPort world).outcome = .ok port →
    port.natAbs < 10 ^ Numeric.Literal.digitLimit

/-- In a tick nobody fails who is told the status, and then somebody observes the network. -/
def StatusHeard (around : Surroundings ε) (call : ω → Notice → Act (Noted ω ε) Unit)
    (s : Noted ω ε) : Prop :=
  ∀ handle, (askStatus around.noted s).outcome = .ok handle →
    (tellStatus call handle (askStatus around.noted s).state).outcome = .ok () ∧
      (tellStatus call handle (askStatus around.noted s).state).state.world.networkObservers ≠ []

/-- Something is published, and since an earlier moment only some entries were made. -/
def Shows (published : Published) (old : List (Entry ω)) (Q : Entry ω → Prop) (s : Noted ω ε) : Prop :=
  s.world.display.published = published ∧
    ∃ new, s.world.entries = new ++ old ∧ ∀ entry ∈ new, Q entry

section Observers

variable {call : ω → Notice → Act (Noted ω ε) Unit} (hcall : Discreet call)
variable {published : Published} {old : List (Entry ω)} {Q : Entry ω → Prop}
variable (hother : ∀ entry, ¬entry.concerns .network → Q entry)
include hcall hother

theorem keeps_discreet (observer : ω) (notice : Notice) :
    Keeps (Shows published old Q) (fun _ => True) (call observer notice) where
  state s hs := by
    obtain ⟨hpublished, new, hnew, hentries⟩ := hs
    obtain ⟨more, hmore, hconcerns⟩ := hcall.entries observer notice s
    refine ⟨(hcall.published observer notice s).trans hpublished, more ++ new, ?_, ?_⟩
    · rw [hmore, hnew, List.append_assoc]
    · intro entry hentry
      rcases List.mem_append.mp hentry with hmem | hmem
      · exact hother entry (hconcerns entry hmem)
      · exact hentries entry hmem
  failure _ _ _ _ := trivial

/-- Whoever is told something does not change what is published. -/
theorem keeps_tell (observers : List ω) {notice : Notice}
    (hnotice : ∀ observer, Q (.told observer notice)) :
    Keeps (Shows published old Q) (fun _ => True) (tell (noting call) observers notice) := by
  refine .forM (fun observer => ?_) observers
  have henter : Keeps (Shows (ε := ε) published old Q) (fun _ => True)
      (enter (.told observer notice)) := by
    refine ⟨fun s hs => ?_, fun _ _ _ _ => trivial⟩
    obtain ⟨hpublished, new, hnew, hentries⟩ := hs
    refine ⟨hpublished, .told observer notice :: new, ?_, ?_⟩
    · exact congrArg (.told observer notice :: ·) hnew
    · exact List.forall_mem_cons.mpr ⟨hnotice observer, hentries⟩
  exact henter.bind fun _ => keeps_discreet hcall hother observer notice

end Observers

/-! ## Answers -/

theorem yields_changeDisplay {f : Display → Display} {P : Noted ω ε → Prop} {Q : Noted ω ε → Prop}
    (h : ∀ s : Noted ω ε, P s →
      Q { s with world := { s.world with display := f s.world.display } }) :
    Yields P (changeDisplay f) fun _ => Q :=
  fun s hs => ⟨(), rfl, h s hs⟩

section Questions

variable {around : Surroundings ε} (haround : AnswersStatus around)

/-- Some entries are in the diary, and the display has the answers about the status. -/
def Answered (around : Surroundings ε) (entries : List (Entry ω)) (handle : Handle)
    (s : Noted ω ε) : Prop :=
  s.world.entries = entries ∧ handle.IsProper around ∧
    s.world.display.isRunning = handle.running ∧ s.world.display.webifPort = handle.webifPort

include haround in
/-- The display takes the answers about the status. -/
theorem yields_askStatus {startedAt : Option Reading} (entries : List (Entry ω))
    (hclock : ∀ world moment, startedAt = some moment → ∃ reading text,
      Supervisor.elapsed (around.clock world) moment = .ok reading ∧
        Uptime.text (some reading) = .ok text) :
    Yields (fun s => Unstirred startedAt entries s.world.supervised) (askStatus around.noted)
      (Answered around entries) := by
  have hsnapshot : Yields (fun s : Noted ω ε => Unstirred startedAt entries s.world.supervised)
      (supervise (Supervisor.snapshot around.noted))
      fun handle s => Unstirred startedAt entries s.world.supervised ∧ handle.IsProper around :=
    fun s hs => yields_snapshot haround startedAt entries s.world.supervised hs
  refine hsnapshot.bind fun handle => ?_
  refine Yields.bind (yields_changeDisplay (Q := fun s =>
    Unstirred startedAt entries s.world.supervised ∧ Answered around entries handle s)
    fun s hs => ⟨hs.1, hs.1.2, hs.2, rfl, rfl⟩) fun _ => ?_
  have huptime : Yields (fun s => Unstirred startedAt entries s.world.supervised ∧
        Answered around entries handle s) (supervise (Supervisor.uptime around.noted))
      fun reading s => Answered around entries handle s ∧ ∃ text, Uptime.text reading = .ok text := by
    rintro s ⟨hs, -, hshown⟩
    obtain ⟨reading, houtcome, hafter, htext⟩ :=
      yields_uptime haround entries hclock s.world.supervised hs
    exact ⟨reading, houtcome, ⟨hafter.2, hshown⟩, htext⟩
  refine huptime.bind fun reading => Yields.bind (Q := fun _ => Answered around entries handle)
    (fun s ⟨hs, text, htext⟩ => ⟨text, htext, hs⟩) fun text => ?_
  refine Yields.bind (yields_changeDisplay (Q := Answered around entries handle) fun s hs => hs)
    fun _ => ?_
  refine Yields.bind (Q := fun _ => Answered around entries handle) (fun s hs => ?_) fun _ =>
    .pure fun s hs => hs
  exact ⟨(), outcome_noteStatus .., (state_noteStatus handle s).symm ▸ hs⟩

/-- The display takes the endpoints that are found, if the port can be written. -/
theorem yields_askNetwork (hinterfaces : ∀ world f,
      (around.interfaces world).outcome = .error f → f.isUnlisted = true)
    {port : Option Int}
    (hport : ∀ number, port = some number → number.natAbs < 10 ^ Numeric.Literal.digitLimit)
    (entries : List (Entry ω)) (observers : List ω) (display : Display) :
    Yields (fun s => s.world.entries = entries ∧ s.world.networkObservers = observers ∧
        s.world.display = display) (askNetwork around.noted port)
      fun endpoints s => s.world.entries = entries ∧ s.world.networkObservers = observers ∧
        s.world.display = ((display.withEndpoints endpoints).withPlace .primary
          (Published.reachOf endpoints port .primary).url).withPlace .accessPoint
          (Published.reachOf endpoints port .accessPoint).url ∧ Separate endpoints := by
  have hfound : Yields (fun s : Noted ω ε => s.world.entries = entries ∧
        s.world.networkObservers = observers ∧ s.world.display = display)
      (outside (Network.findBoth (around.noted (ω := ω)).naming around.noted.interfaces))
      fun endpoints s => s.world.entries = entries ∧ s.world.networkObservers = observers ∧
        s.world.display = display ∧ Separate endpoints := by
    rintro s ⟨hentries, hobservers, hdisplay⟩
    obtain ⟨endpoints, houtcome, hafter, hseparate⟩ :=
      Network.yields_findBoth (keeps_entries hinterfaces entries) around.naming s.world.diary hentries
    exact ⟨endpoints, houtcome, hafter, hobservers, hdisplay, hseparate⟩
  refine hfound.bind fun endpoints => ?_
  rintro s ⟨hentries, hobservers, rfl, hseparate⟩
  have hplaces : publish endpoints port s = ⟨.ok (), { s with world := { s.world with
      display := ((s.world.display.withEndpoints endpoints).withPlace .primary
        (Published.reachOf endpoints port .primary).url).withPlace .accessPoint
        (Published.reachOf endpoints port .accessPoint).url } }, []⟩ := by
    simp only [publish, publishPlace, Published.place?_eq hport]
    rfl
  refine ⟨endpoints, ?_, ?_⟩
  · rw [Act.outcome_bind, hplaces]
    rfl
  · rw [Act.state_bind, hplaces]
    exact ⟨hentries, hobservers, rfl, hseparate⟩

/-- A tick that gets as far as the network ends by telling about it. -/
theorem state_tickStatus {around : Surroundings ε} {call : ω → Notice → Act (Polling ω ε) Unit}
    {s asked told found : Polling ω ε} {handle : Handle} {endpoints : List Endpoint}
    (hasked : (askStatus around s).outcome = .ok handle)
    (haskedState : (askStatus around s).state = asked)
    (htold : (tell call asked.world.statusObservers (.status handle) asked).outcome = .ok ())
    (htoldState : (tell call asked.world.statusObservers (.status handle) asked).state = told)
    (hobserved : told.world.networkObservers ≠ [])
    (hfound : (askNetwork around handle.webifPort told).outcome = .ok endpoints)
    (hfoundState : (askNetwork around handle.webifPort told).state = found) :
    (tickStatus around call s).state =
      (tell call found.world.networkObservers (.network endpoints) found).state := by
  have hsome : told.world.networkObservers.isEmpty = false := by simpa using hobserved
  rw [tickStatus, Act.state_bind_ok hasked, haskedState, state_look_bind]
  rw [Act.state_bind_ok htold, htoldState, state_look_bind, hsome, if_neg Bool.false_ne_true]
  rw [Act.state_bind_ok hfound, hfoundState, state_look_bind]

end Questions

/-! ## Ticks of the status -/

/-- **The observers of the network are told** the endpoints, at least one of them. -/
theorem tell_network {call : ω → Notice → Act (Noted ω ε) Unit} (hcall : Discreet call)
    (endpoints : List Endpoint) {observers : List ω} (hobserved : observers ≠ []) (s : Noted ω ε) :
    ∃ after, (tell (noting call) observers (.network endpoints) s).state = after ∧
      after.world.display.published = s.world.display.published ∧
      ∃ new, after.world.entries = new ++ s.world.entries ∧
        (∃ observer, .told observer (.network endpoints) ∈ new) ∧
        ∀ observer others, .told observer (.network others) ∈ new → others = endpoints := by
  obtain ⟨first, rest, rfl⟩ := List.exists_cons_of_ne_nil hobserved
  have hother : ∀ entry : Entry ω, ¬entry.concerns .network →
      ∀ observer others, entry = .told observer (.network others) → others = endpoints := by
    rintro _ hconcerns observer others rfl
    exact (hconcerns rfl).elim
  have hrest : Keeps (Shows s.world.display.published
      (.told first (.network endpoints) :: s.world.entries)
      fun entry => ∀ observer others, entry = .told observer (.network others) → others = endpoints)
      (fun _ => True) (do
        call first (.network endpoints)
        tell (noting call) rest (.network endpoints)) := by
    refine (keeps_discreet hcall hother first _).bind fun _ => keeps_tell hcall hother rest ?_
    rintro observer _ others heq
    cases heq
    rfl
  -- The first observer is entered before it is called, so that it counts as told if it fails.
  have hstate : (tell (noting call) (first :: rest) (.network endpoints) s).state = ((do
      call first (.network endpoints)
      tell (noting call) rest (.network endpoints)) (enter (.told first (.network endpoints))
        s).state).state :=
    congrArg Report.state (congrFun (Act.bind_assoc (enter (.told first (.network endpoints)))
      (fun _ => call first (.network endpoints))
      fun _ => tell (noting call) rest (.network endpoints)) s)
  obtain ⟨hpublished, later, hlater, hfaithful⟩ :=
    hrest.state (enter (.told first (.network endpoints)) s).state ⟨rfl, [], rfl, nofun⟩
  refine ⟨_, hstate, hpublished, later ++ [.told first (.network endpoints)], ?_, ⟨first, ?_⟩, ?_⟩
  · rw [hlater, List.append_assoc]
    rfl
  · exact List.mem_append_right _ List.mem_cons_self
  · intro observer others hmem
    rcases List.mem_append.mp hmem with hmem | hmem
    · exact hfaithful _ hmem observer others rfl
    · cases List.mem_singleton.mp hmem
      rfl

/-- **What a tick of the status publishes is consistent**, and the observers of the network are told
it, as long as somebody observes the network. The server may give another answer each time it is
asked, or fail, and so may what lists the interfaces; the observers of the network may fail too. -/
theorem status_consistent {around : Surroundings ε} (haround : AnswersStatus around)
    (hports : PortsWritten around)
    (hinterfaces : ∀ world f, (around.interfaces world).outcome = .error f → f.isUnlisted = true)
    {call : ω → Notice → Act (Noted ω ε) Unit} (hcall : Discreet call) {s : Noted ω ε}
    (hclock : ∀ world moment, s.world.supervised.startedAt = some moment → ∃ reading text,
      Supervisor.elapsed (around.clock world) moment = .ok reading ∧
        Uptime.text (some reading) = .ok text)
    (hheard : StatusHeard around call s) :
    ∃ after, (tickStatus around.noted (noting call) s).state = after ∧
      after.world.display.published.IsConsistent ∧
      ∃ new, after.world.entries = new ++ s.world.entries ∧
        (∃ observer, .told observer (.network after.world.display.endpoints) ∈ new) ∧
        ∀ observer endpoints, .told observer (.network endpoints) ∈ new →
          endpoints = after.world.display.endpoints := by
  -- The server is asked.
  obtain ⟨handle, hasked, hentries, hproper, hrunning, hport⟩ :=
    yields_askStatus haround s.world.entries hclock s ⟨rfl, rfl⟩
  obtain ⟨htold, hobserved⟩ := hheard handle hasked
  generalize haskedState : (askStatus around.noted s).state = asked at *
  -- The observers of the status are told.
  have hstatus : Keeps (Shows asked.world.display.published asked.world.entries
      fun entry => ¬entry.concerns .network) (fun _ => True)
      (tell (noting call) asked.world.statusObservers (.status handle)) :=
    keeps_tell hcall (fun _ h => h) asked.world.statusObservers fun _ => nofun
  have htoldShows := hstatus.state asked ⟨rfl, [], rfl, nofun⟩
  have htoldOutcome : (tell (noting call) asked.world.statusObservers (.status handle) asked).outcome =
      .ok () := htold
  have htoldObserved : (tell (noting call) asked.world.statusObservers (.status handle)
      asked).state.world.networkObservers ≠ [] := hobserved
  generalize htoldState :
    (tell (noting call) asked.world.statusObservers (.status handle) asked).state = told at *
  obtain ⟨hpublished, heard, hheard, hquiet⟩ := htoldShows
  -- The network is looked at.
  have hwritten : ∀ port, handle.webifPort = some port →
      port.natAbs < 10 ^ Numeric.Literal.digitLimit := by
    intro port hhandle
    obtain ⟨world, hanswer⟩ := hproper.port_answered port hhandle
    exact hports world port hanswer
  obtain ⟨endpoints, hfound, hfoundEntries, hobservers, hdisplay, hseparate⟩ :=
    yields_askNetwork hinterfaces hwritten told.world.entries told.world.networkObservers
      told.world.display told ⟨rfl, rfl, rfl⟩
  generalize hfoundState : (askNetwork around.noted handle.webifPort told).state = found at *
  have hfoundPublished : found.world.display.published = .of handle endpoints := by
    rw [hdisplay]
    refine Published.published_withPlaces ?_ ?_
    · exact (congrArg Published.isRunning hpublished).trans hrunning
    · exact (congrArg Published.webifPort hpublished).trans hport
  -- The observers of the network are told.
  obtain ⟨after, hafter, hafterPublished, later, hlater, hsome, hfaithful⟩ :=
    tell_network hcall endpoints (hobservers ▸ htoldObserved) found
  have hconsistent : after.world.display.published = .of handle endpoints :=
    hafterPublished.trans hfoundPublished
  have hendpoints : after.world.display.endpoints = endpoints :=
    congrArg Published.endpoints hconsistent
  have hstate : (tickStatus around.noted (noting call) s).state = after :=
    (state_tickStatus hasked haskedState htoldOutcome htoldState htoldObserved hfound
      hfoundState).trans hafter
  refine ⟨after, hstate, hconsistent ▸ Published.isConsistent_of hproper hseparate,
    later ++ heard, ?_, ?_, ?_⟩
  · rw [hlater, hfoundEntries, hheard, hentries, List.append_assoc]
  · obtain ⟨observer, hmem⟩ := hsome
    rw [hendpoints]
    exact ⟨observer, List.mem_append_left _ hmem⟩
  · intro observer others hmem
    rw [hendpoints]
    rcases List.mem_append.mp hmem with hmem | hmem
    · exact hfaithful observer others hmem
    · exact (hquiet _ hmem rfl).elim

/-! ## Single runs -/

/-- Surroundings that count the questions whether the server runs and which interfaces there are. By
its number such a question may fail. The port depends on how many questions there were. -/
def wavering (port : Nat → Int) (clock : Nat → Reading) (failure : Nat → Option Failure) :
    Surroundings Nat :=
  let count : Act Nat Unit := do
    let questions ← Act.get
    Act.modify (· + 1)
    Act.raise? (failure questions)
  { service :=
      { start := fun _ _ => pure 0
        stop := pure ()
        isRunning := do
          count
          return true
        webifPort := Act.view port
        logLines := fun wanted _ => pure (none, wanted) }
    inhibitor := { acquire := fun _ => pure (), release := pure () }
    clock
    interfaces := (do
      count
      return [⟨"wlan0", true, ["192.168.1.5"]⟩, ⟨"ap0", true, ["192.168.43.1"]⟩] :
        Act Nat (List Network.Interface)) }

/-- The port is another one from the fourth question on. -/
def moved (questions : Nat) : Int :=
  if questions < 4 then 8080 else 9090

/-- A poller of a running server before its first tick. -/
def fresh (startedAt : Reading) (statusObservers networkObservers : List Nat) : Noted Nat Nat where
  cadences := []
  world := {
    supervised := { awake := { token := {}, outside := { outside := 0 } }, startedAt := some startedAt }
    statusObservers
    networkObservers }

/-- The third and the fifth question fail. -/
def faltering (questions : Nat) : Option Failure :=
  if questions = 2 ∨ questions = 4 then some (.system .general none "") else none

/-- Observers of the status attach one of the network, and observers of the network fail. -/
def startled (_ : Nat) : Notice → Act (Noted Nat Nat) Unit
  | .status _ => attachNetwork 2
  | .network _ => Act.fail .nothingOpen
  | .log _ => pure ()

theorem discreet_startled : Discreet startled := by
  have hattach : ∀ s : Noted Nat Nat, (attachNetwork 2 s).state.world =
      { s.world with networkObservers := s.world.networkObservers ++ [2] } := by
    intro s
    rw [attachNetwork, Act.state_bind, run_change]
    exact Schedule.Agenda.world_start ..
  refine ⟨fun observer notice s => ?_, fun observer notice s => ⟨[], ?_, nofun⟩⟩
  · cases notice with
    | status => rw [startled, hattach]
    | network | log => rfl
  · cases notice with
    | status =>
      have hentries := congrArg entries (hattach s)
      exact hentries
    | network | log => rfl

/-- Although the server fails when it is asked for the third time, the interfaces cannot be listed
for the access point, and the first observer of the network fails, what is published is consistent. -/
theorem status_consistent_wavering :
    AnswersStatus (wavering moved (fun _ => 5) faltering) ∧ Discreet startled ∧
      StatusHeard (wavering moved (fun _ => 5) faltering) startled (fresh 0 [0] [1]) ∧
      ∃ after, (tickStatus (wavering moved (fun _ => 5) faltering).noted (noting startled)
          (fresh 0 [0] [1])).state = after ∧
        after.world.display.published.IsConsistent ∧
        after.world.networkObservers = [1, 2] ∧
        after.world.display.primary =
          { address := some "192.168.1.5", url := some "http://192.168.1.5:8080" } := by
  have hfaltering : ∀ questions f, faltering questions = some f →
      f.isUnlisted = true ∧ Act.Ordinary f := by
    intro questions f hf
    unfold faltering at hf
    split_ifs at hf
    cases hf
    exact ⟨rfl, rfl⟩
  have hfailed : ∀ {α : Type} (answer : α) (world : Nat) f,
      ((do
        Act.raise? (faltering world)
        return answer : Act Nat α) (world + 1)).outcome = .error f → faltering world = some f := by
    intro α answer world f hf
    cases hquestion : faltering world with
    | none =>
      rw [hquestion] at hf
      cases hf
    | some g =>
      rw [hquestion] at hf
      cases hf
      rfl
  have haround : AnswersStatus (wavering moved (fun _ => 5) faltering) :=
    { isRunning := fun world f hf => (hfaltering world f (hfailed _ world f hf)).2
      webifPort := fun _ _ hf => by cases hf }
  have hheard : StatusHeard (wavering moved (fun _ => 5) faltering) startled (fresh 0 [0] [1]) := by
    intro handle hhandle
    have hasked : (askStatus (wavering moved (fun _ => 5) faltering).noted (fresh 0 [0] [1])).outcome =
        .ok ⟨true, some 8080, some 0⟩ := by rfl
    obtain rfl := Except.ok.inj (hhandle.symm.trans hasked)
    exact ⟨by rfl, by decide +kernel⟩
  refine ⟨haround, discreet_startled, hheard, ?_⟩
  have hports : PortsWritten (wavering moved (fun _ => 5) faltering) := by
    intro world port hport
    obtain rfl : moved world = port := Except.ok.inj hport
    have hlimit : 10 ^ 4 ≤ 10 ^ Numeric.Literal.digitLimit :=
      Nat.pow_le_pow_right (by decide) (by decide)
    refine Nat.lt_of_lt_of_le ?_ hlimit
    unfold moved
    split_ifs <;> decide
  obtain ⟨after, hafter, hconsistent, -⟩ := status_consistent haround hports
    (fun world f hf => (hfaltering world f (hfailed _ world f hf)).1) discreet_startled
    (fun _ moment hmoment => by cases hmoment; exact ⟨_, _, rfl, rfl⟩) hheard
  refine ⟨after, hafter, hconsistent, ?_, ?_⟩
  · rw [← hafter]
    decide +kernel
  · rw [← hafter]
    decide +kernel

/-- Somebody observes the network, and the port is not the one in the place of the web interface. -/
def IsAmiss (poller : Poller Nat (Diary Nat Nat)) : Prop :=
  poller.networkObservers ≠ [] ∧ poller.display.webifPort = some 9090 ∧
    poller.display.primary =
      { address := some "192.168.1.5", url := some "http://192.168.1.5:8080" }

instance (poller : Poller Nat (Diary Nat Nat)) : Decidable (IsAmiss poller) :=
  inferInstanceAs (Decidable (_ ∧ _ ∧ _))

theorem IsAmiss.not_isConsistent {poller : Poller Nat (Diary Nat Nat)} (h : IsAmiss poller) :
    poller.networkObservers ≠ [] ∧ ¬poller.display.published.IsConsistent := by
  obtain ⟨hobserved, hport, hprimary⟩ := h
  refine ⟨hobserved, fun hconsistent => ?_⟩
  have hurl : (poller.display.published.reach .primary).url = some "http://192.168.1.5:8080" :=
    congrArg Reach.url hprimary
  obtain ⟨address, port, haddress, hnumber, heq⟩ := (hconsistent.url_iff _ _).mp hurl
  obtain rfl := Option.some.inj ((congrArg Reach.address hprimary).symm.trans haddress)
  obtain rfl := Option.some.inj (hport.symm.trans hnumber)
  revert heq
  decide +kernel

/-- A moment long before or after the beginning of a clock, past half of the largest floating-point
number. -/
def remote (isBefore : Bool) : Reading :=
  .real (.finite isBefore (2 ^ 2097))

/-- A poller with a quiet observer of the network after two ticks. -/
def afterTwoTicks (clock : Nat → Reading) (failure : Nat → Option Failure) : Noted Nat Nat :=
  let once : Act (Noted Nat Nat) Unit := tickStatus (wavering moved clock failure).noted fun _ _ => pure ()
  (once (once (fresh (clock 0) [] [0])).state).state

/-- At the second tick, the time since the start of the server is past the largest floating-point
number. -/
def overrun : Noted Nat Nat :=
  afterTwoTicks (fun questions => remote (questions < 4)) fun _ => none

/-- At the second tick, the server fails with a cancelled wait. -/
def interrupted : Noted Nat Nat :=
  afterTwoTicks (fun _ => 5) fun questions =>
    if questions = 7 then some (.reported .cancelled "") else none

/-- An observer of the status that makes a tick of its own. -/
def eager (_ : Nat) : Notice → Act (Noted Nat Nat) Unit
  | .status _ => tickStatus (wavering moved (fun _ => 5) fun _ => none).noted fun _ _ => pure ()
  | _ => pure ()

/-- A tick in which an observer of the status makes a tick of its own. -/
def overtaken : Report (Noted Nat Nat) Unit :=
  tickStatus (wavering moved (fun _ => 5) fun _ => none).noted eager (fresh 0 [0] [1])

/-- The port of more digits than an integer may have. -/
def overlong : Int :=
  10 ^ Numeric.Literal.digitLimit

/-- At a tick, the server answers a port that cannot be written. -/
def unplaced : Noted Nat Nat :=
  (tickStatus (wavering (fun _ => overlong) (fun _ => 5) fun _ => none).noted (fun _ _ => pure ())
    (fresh 5 [] [0])).state

/-- **Four ticks that publish a port, and no place with this port**, although the network is observed
and no observer of the status fails. In the first three the place has another port, in the last one
there is an address and no place. -/
theorem status_inconsistent :
    (overrun.world.networkObservers ≠ [] ∧ ¬overrun.world.display.published.IsConsistent) ∧
    (interrupted.world.networkObservers ≠ [] ∧ ¬interrupted.world.display.published.IsConsistent) ∧
    (overtaken.outcome = .ok () ∧
      overtaken.state.world.networkObservers ≠ [] ∧
        ¬overtaken.state.world.display.published.IsConsistent) ∧
    unplaced.world.networkObservers ≠ [] ∧ ¬unplaced.world.display.published.IsConsistent := by
  have hoverrun : IsAmiss overrun.world := by decide +kernel
  have hinterrupted : IsAmiss interrupted.world := by decide +kernel
  have hovertaken : IsAmiss overtaken.state.world := by decide +kernel
  have hcalm : overtaken.outcome = .ok () := by
    have hok : overtaken.outcome.isOk = true := by decide +kernel
    cases houtcome : overtaken.outcome with
    | ok => rfl
    | error failure => cases (houtcome ▸ hok : (Except.error failure).isOk = true)
  have hunplaced : unplaced.world.networkObservers ≠ [] ∧
      unplaced.world.display.published.webifPort = some overlong ∧
      unplaced.world.display.published.reach .primary = { address := some "192.168.1.5" } := by
    decide +kernel
  refine ⟨hoverrun.not_isConsistent, hinterrupted.not_isConsistent,
    ⟨hcalm, hovertaken.not_isConsistent⟩, hunplaced.1, fun hconsistent => ?_⟩
  obtain ⟨-, hport, hprimary⟩ := hunplaced
  exact hconsistent.url_ne_none (congrArg Reach.address hprimary) hport (congrArg Reach.url hprimary)

end Poller

end Warden
