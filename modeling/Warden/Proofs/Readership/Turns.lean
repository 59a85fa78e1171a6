import Warden.Lifecycle
import Warden.Proofs.ServerLog.Delivery

/-!
# Readers of the log

Guests and pages read the log of a server through a poller. Guests are attached and detached, pages
are opened and their logs detached, and lines are written, also while a tick goes on. A guest that
is told new text may fail, which ends the tick. Beside the outside world a book is kept of what was
ever written, of what each reading of the log answered, and of what guests were told.

Of all this only the book, the followers, their observers, and what the pages show of the log matter
here. What each turn does to these is written out.

## Main definitions

* `Book`, `Hearing`: what is kept beside an outside world
* `Turn`, `Turn.act`, `after`: what happens to the poller and its pages, turn by turn
* `Readership`: the book, the followers, their observers and what pages show of the log
* `Readership.take`: what a turn does to these
-/

namespace Warden

open Warden.Server (ChildServer)
open Warden.ServerLog

namespace Readership

/-! ## Books -/

/-- A server with a book about its log. -/
structure Book where
  server : ChildServer
  /-- All lines ever written. -/
  history : List String := []
  /-- Who is to read the log, one after the other, and the lines that are written before. -/
  expected : List (Nat × List String) := []
  /-- What each reading of the log found and answered. -/
  polls : List Poll := []
  /-- What guests were told, by the number of their follower. -/
  told : List (Nat × String) := []
  /-- Whose the followers are. -/
  owners : List (Watcher Nat) := []

namespace Book

/-- Lines are written. -/
def write (lines : List String) (book : Book) : Book :=
  { book with
    server := { book.server with ring := book.server.ring.appendAll lines }
    history := book.history ++ lines }

/-- The lines are written that come before the next reading. -/
def arrive (book : Book) : Book :=
  match book.expected with
  | [] => book
  | (_, lines) :: later => { book.write lines with expected := later }

/-- A reading of the log is entered. -/
def enter (expected : List (Nat × List String)) (wanted : Int) (text : String) (book : Book) :
    Book :=
  let polls := (expected.take 1).map fun entry =>
    (⟨entry.1, book.server.ring.total, wanted.toNat, text⟩ : Poll)
  { book with polls := book.polls ++ polls }

/-- The log of the server, which is read after the lines are written that come before. -/
def logLines : Source Book := fun wanted count => do
  let expected ← Act.view Book.expected
  Act.modify Book.arrive
  let answer ← (ChildServer.logLines wanted count).within Book.server
    fun book server => { book with server }
  Act.modify (·.enter expected wanted (answer.1.getD ""))
  return answer

/-- A guest is told something. -/
def tell (number : Nat) (text : String) (book : Book) : Book :=
  { book with told := book.told ++ [(number, text)] }

/-- The polls of a follower. -/
def pollsOf (number : Nat) (book : Book) : List Poll :=
  book.polls.filter (·.follower == number)

/-- What the guest with a follower was told. -/
def textsOf (number : Nat) (book : Book) : List String :=
  (book.told.filter (·.1 == number)).map (·.2)

end Book

/-- An outside world with a server and a book about its log. -/
structure Hearing (ε : Type) where
  outside : ε
  book : Book

end Readership

/-- The surroundings with a server whose log is kept in a book. -/
def Surroundings.heard {ε : Type} (outer : Surroundings ε) : Surroundings (Readership.Hearing ε) :=
  let inner := outer.within Readership.Hearing.outside fun hearing outside =>
    { hearing with outside }
  { inner with
    service := { inner.service with
      logLines := fun wanted count => (Readership.Book.logLines wanted count).within
        Readership.Hearing.book fun hearing book => { hearing with book } } }

namespace Readership

variable {ε α β : Type}

/-! ## Turns -/

/-- An act on the book. -/
def onBook (act : Act Book α) : Act (Premises Nat (Hearing ε)) α :=
  Site.beyond (act.within Hearing.book fun hearing book => { hearing with book })

/-- How guests fail when they are told something, after what all of them were told before. -/
abbrev Mood := List (Nat × String) → Nat → String → Option Failure

/-- A guest is told something. -/
def guest (mood : Mood) (number : Nat) : Notice → Act (Premises Nat (Hearing ε)) Unit
  | .log text => do
    let told ← onBook (Act.view Book.told)
    onBook (Act.modify (·.tell number text))
    Act.raise? (mood told number text)
  | _ => pure ()

/-- What happens to a poller and its pages. -/
inductive Turn where
  | write (lines : List String)
  /-- A guest is attached, with as many lines at once. -/
  | attach (maxLines : Int)
  | detach (follower : Nat)
  /-- A page is opened. -/
  | build
  /-- The log of a page is detached. -/
  | detachPage (page : Nat)
  /-- A tick of the log. Before a follower is polled some lines are written. -/
  | tick (during : Nat → List String)

/-- The next follower belongs to somebody. -/
def own (watcher : Watcher Nat) : Act (Premises Nat (Hearing ε)) Unit :=
  onBook (Act.modify fun book => { book with owners := book.owners ++ [watcher] })

/-- Lines are to be written before each follower is polled. -/
def expecting (during : Nat → List String) : Act (Premises Nat (Hearing ε)) Unit := do
  let readers ← Poller.look Poller.logObservers
  onBook (Act.modify fun book =>
    { book with expected := readers.map fun reader => (reader.1, during reader.1) })

/-- A turn as an act. -/
def Turn.act (outer : Surroundings ε) (mood : Mood) : Turn → Act (Premises Nat (Hearing ε)) Unit
  | write lines => onBook (Act.modify (·.write lines))
  | attach maxLines => do
    let number ← Poller.look fun poller => poller.followers.size
    own (.guest number)
    discard (Poller.attachLog (.guest number) maxLines)
  | detach follower => Poller.detachLog follower
  | build => do
    own (.log (← Site.look fun site => site.pages.size))
    discard Page.build
  | detachPage page => Page.detachLog page
  | tick during => do
    expecting during
    discard (Lifecycle.tick outer.heard (guest mood) .logs)

/-- A poller without observers of the log and without pages, and a server with an empty log. -/
def opened (premises : Premises Nat (Hearing ε)) (server : ChildServer) (capacity : Nat)
    (room : 0 < capacity) : Premises Nat (Hearing ε) :=
  let world := premises.world
  let site := world.supervised.awake.outside
  let book : Book := { server := { server with ring := .empty capacity room } }
  let awake := { world.supervised.awake with
    outside := { site with outside := { outside := site.outside.outside, book }, pages := #[] } }
  { premises with
    world := { world with
      supervised := { world.supervised with awake }
      logObservers := []
      followers := #[] } }

/-- A poller and its pages after a number of turns. -/
def after (outer : Surroundings ε) (mood : Mood) (premises : Premises Nat (Hearing ε))
    (turns : List Turn) : Premises Nat (Hearing ε) :=
  turns.foldl (fun premises turn => (turn.act outer mood premises).state) premises

/-- The book of a poller. -/
def bookOf (premises : Premises Nat (Hearing ε)) : Book :=
  premises.world.supervised.awake.outside.outside.book

/-- The pages beside a poller. -/
def pagesOf (premises : Premises Nat (Hearing ε)) : Array Page :=
  premises.world.supervised.awake.outside.pages

end Readership

/-! ## What matters -/

/-- What a page shows of the log. -/
structure Leaf where
  follower : Option Nat
  logText : String
  lineCount : Nat

/-- What a page shows of the log. -/
def Page.leaf (page : Page) : Leaf :=
  ⟨page.follower, page.logText, page.lineCount⟩

/-- The book, the followers, their observers and what pages show of the log. -/
structure Readership where
  book : Readership.Book
  followers : List Follower
  readers : List (Nat × Watcher Nat)
  leaves : List Leaf

namespace Readership

variable {ε α β : Type}

/-- What matters of a poller and its pages. -/
def of (premises : Premises Nat (Hearing ε)) : Readership where
  book := bookOf premises
  followers := premises.world.followers.toList
  readers := premises.world.logObservers
  leaves := (pagesOf premises).toList.map Page.leaf

/-- Somebody joins, with a new follower. -/
def join (watcher : Watcher Nat) (maxLines : Int) (r : Readership) : Readership :=
  { r with
    book := { r.book with owners := r.book.owners ++ [watcher] }
    followers := r.followers ++ [{ maxLines }]
    readers := r.readers ++ [(r.followers.length, watcher)] }

/-- Whoever has a follower quits. -/
def quit (number : Nat) (r : Readership) : Readership :=
  { r with readers := r.readers.filter (·.1 != number) }

/-- The follower of a number. -/
def follower (number : Nat) (r : Readership) : Follower :=
  r.followers[number]?.getD default

/-- The number of the follower of a page. -/
def followerOf (page : Nat) (r : Readership) : Option Nat :=
  r.leaves[page]?.bind Leaf.follower

/-- What a follower is given when it is polled. -/
def textFor (number : Nat) (r : Readership) : String :=
  (r.follower number).textFrom r.book.arrive.server.ring

/-- A follower is polled. -/
def poll (number : Nat) (r : Readership) : Readership :=
  { r with
    book := r.book.arrive.enter r.book.expected (r.follower number).cursor.next (r.textFor number)
    followers := r.followers.set number ((r.follower number).reading r.book.arrive.server.ring) }

/-- A page shows the text of its follower, if it has one. -/
def render (page : Nat) (r : Readership) : Readership :=
  match r.followerOf page with
  | none => r
  | some number =>
    let buffer := (r.follower number).buffer
    { r with leaves := r.leaves.modify page fun leaf =>
        { leaf with logText := buffer.text, lineCount := buffer.lineCount } }

/-- Somebody is told new text, and may fail. -/
def hear (mood : Mood) (text : String) (watcher : Watcher Nat) (r : Readership) :
    Readership × Option Failure :=
  match watcher with
  | .network _ => (r, none)
  | .log page => (r.render page, none)
  | .guest number => ({ r with book := r.book.tell number text }, mood r.book.told number text)

/-- An observer of the log reads on. -/
def read (mood : Mood) (reader : Nat × Watcher Nat) (r : Readership) :
    Readership × Option Failure :=
  if (r.textFor reader.1).isEmpty then (r.poll reader.1, none)
  else (r.poll reader.1).hear mood (r.textFor reader.1) reader.2

/-- Observers of the log read on, until one of them fails. -/
def readAll (mood : Mood) : List (Nat × Watcher Nat) → Readership → Readership × Option Failure
  | [], r => (r, none)
  | reader :: later, r =>
    match r.read mood reader with
    | (after, none) => readAll mood later after
    | (after, some failure) => (after, some failure)

/-- Lines are to be written before each observer reads. -/
def expect (during : Nat → List String) (r : Readership) : Readership :=
  { r with book := { r.book with
      expected := r.readers.map fun reader => (reader.1, during reader.1) } }

/-- What a turn does to what matters. -/
def take (mood : Mood) (r : Readership) : Turn → Readership
  | .write lines => { r with book := r.book.write lines }
  | .attach maxLines => r.join (.guest r.followers.length) maxLines
  | .detach number => r.quit number
  | .build =>
    { r.join (.log r.leaves.length) defaultLines with
      leaves := r.leaves ++ [⟨some r.followers.length, "", 0⟩] }
  | .detachPage page =>
    match r.followerOf page with
    | none => r
    | some number =>
      { r.quit number with
        leaves := r.leaves.modify page fun leaf => { leaf with follower := none } }
  | .tick during => ((r.expect during).readAll mood r.readers).1

end Readership

end Warden
