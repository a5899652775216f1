import DeclarationFetch.Clock
import DeclarationFetch.Editor.Basic
import DeclarationFetch.FileTree

/-!
# Files as editors

A file whose changes are noticed by looking at its modification time again and again. A task that looks
is made with the first listener and cancelled with the last one, and the times between two looks count
from the look before. A cancelled task is there until it goes on next, while another one may look.
-/

namespace DeclarationFetch

inductive Poll where
  /-- The first wait has not begun yet. -/
  | starting
  | sleeping (due : Instant)
  /-- It ends when it goes on. -/
  | cancelled
  | ended
  deriving Repr, DecidableEq

/-- A task that has ended stays as it is. -/
def Poll.cancel : Poll → Poll
  | ended => ended
  | _ => cancelled

/-- Who hears of a change. Several registrations may share one listener. -/
structure Listener where
  id : Nat
  name : String
  deriving Repr, DecidableEq

structure FileSurface where
  place : Location
  interval : Double := 0.5
  listeners : List Listener := []
  polls : List Poll := []
  current : Option Nat := none
  /-- The modification time at the last look, none if there was no file. -/
  lastSeen : Option Int := none

namespace FileSurface

/-- The address of a file is its path. -/
def uri (s : FileSurface) : String := s.place.text

def isPolling (s : FileSurface) : Bool := s.current.isSome

/-- Makes a task that looks from now on; `modified` is the file's modification time. -/
def beginPolling (s : FileSurface) (modified : Option Int) : FileSurface :=
  { s with
    lastSeen := modified
    polls := s.polls ++ [.starting]
    current := some s.polls.length }

def endPolling (s : FileSurface) : FileSurface :=
  match s.current with
  | some k => { s with polls := s.polls.modify k Poll.cancel, current := none }
  | none => s

def listen (s : FileSurface) (listener : Listener) (modified : Option Int) : FileSurface :=
  let s := { s with listeners := s.listeners ++ [listener] }
  if s.isPolling then s else s.beginPolling modified

/-- Releases the first listener that is equal to this one, and fails if there is none. -/
def release? (s : FileSurface) (listener : Listener) : Option FileSurface :=
  if listener ∈ s.listeners then
    let s := { s with listeners := s.listeners.erase listener }
    some (if s.listeners.isEmpty then s.endPolling else s)
  else none

/-- Without a time between two looks, looks follow each other whenever the loop runs. -/
def isRestless (s : FileSurface) : Bool := s.interval.le 0.0

/-- Whether a task that sleeps so long wakes up when it is to go on now. -/
def wakes (s : FileSurface) (due now : Instant) : Bool := s.isRestless || Instant.reached due now

def sleep (s : FileSurface) (k : Nat) (now : Instant) : FileSurface :=
  { s with polls := s.polls.set k (.sleeping (Instant.later now s.interval)) }

/-- Looks at the file, and says who is to hear of a change. -/
def look (s : FileSurface) (modified : Option Int) : FileSurface × List Listener :=
  if modified = s.lastSeen then (s, []) else ({ s with lastSeen := modified }, s.listeners)

def goOn (s : FileSurface) (k : Nat) (now : Instant) (modified : Option Int) :
    FileSurface × List Listener :=
  match s.polls[k]? with
  | some .starting => (s.sleep k now, [])
  | some (.sleeping due) =>
      if s.wakes due now then
        let (s, heard) := s.look modified
        (s.sleep k now, heard)
      else (s, [])
  | some .cancelled => ({ s with polls := s.polls.set k .ended }, [])
  | some .ended => (s, [])
  | none => (s, [])

end FileSurface

structure WatchedFile where
  surface : FileSurface
  tree : FileTree := {}
  modified : Option Int := none
  now : Instant := .start
  registrations : List (Listener × Subscription) := []
  latest : List (String × Nat) := []

namespace WatchedFile

def write (w : WatchedFile) (text : String) (modified : Int) : WatchedFile :=
  { w with
    tree := (w.tree.plant w.surface.place (.text text)).2
    modified := some modified }

def delete (w : WatchedFile) : WatchedFile :=
  { w with tree := w.tree.prune w.surface.place, modified := none }

def register (w : WatchedFile) (listener : Listener) : WatchedFile :=
  { w with
    surface := w.surface.listen listener w.modified
    registrations := w.registrations ++ [(listener, {})] }

/-- Disposes a registration. Where there is nothing to release, all stays as it is. -/
def disposeAt (w : WatchedFile) (n : Nat) : WatchedFile :=
  match w.registrations[n]? with
  | some (listener, subscription) =>
      let (subscription, releases) := subscription.dispose
      { w with
        surface := if releases then (w.surface.release? listener).getD w.surface else w.surface
        registrations := w.registrations.set n (listener, subscription) }
  | none => w

/-- Registers a new listener. A name stands for its latest registration. -/
def listen (w : WatchedFile) (name : String) : WatchedFile :=
  let n := w.registrations.length
  { w.register ⟨n, name⟩ with latest := (name, n) :: w.latest.filter (·.1 ≠ name) }

def dispose (w : WatchedFile) (name : String) : WatchedFile :=
  match w.latest.lookup name with
  | some n => w.disposeAt n
  | none => w

def goOn (w : WatchedFile) (k : Nat) : WatchedFile × List Listener :=
  let (surface, heard) := w.surface.goOn k w.now w.modified
  ({ w with surface }, heard)

def run (w : WatchedFile) : WatchedFile × List Listener :=
  (List.range w.surface.polls.length).foldl
    (fun done k => let (w, heard) := done.1.goOn k; (w, done.2 ++ heard)) (w, [])

def pass (w : WatchedFile) (seconds : Double) : WatchedFile :=
  { w with now := Instant.later w.now seconds }

def advance (w : WatchedFile) (seconds : Double) : WatchedFile × List Listener :=
  let (w, before) := w.run
  let (w, heard) := (w.pass seconds).run
  (w, before ++ heard)

end WatchedFile

end DeclarationFetch
