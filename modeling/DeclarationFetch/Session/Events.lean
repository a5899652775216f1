import DeclarationFetch.Options.Validation
import DeclarationFetch.Session.Passes

/-!
# What happens to sessions

Edits, timers and the calls of the application, on an event loop whose clock moves only when it is told
to.
-/

namespace DeclarationFetch

abbrev SessionLoop := Loop World

namespace SessionLoop

/-! ## Passes -/

/-- Attaches a session and begins its first pass; gives the numbers of session and task. -/
def create (l : SessionLoop) (p : World.Plan) : Nat × Nat × SessionLoop :=
  let (id, world) := World.attach p l.state
  let (task, l) := Loop.spawn { l with state := world } (World.firstPass id)
  (id, task, l)

def resolve (l : SessionLoop) (id : Nat) : Nat × SessionLoop := Loop.spawn l (World.resolveContents id)

def fire (l : SessionLoop) (id : Nat) : SessionLoop :=
  let (task, l) := Loop.spawn l (World.resolveContents id)
  l.update fun w => w.mapSession id fun s => { s with debouncer := s.debouncer.fired task }

/-! ## Edits -/

/-- The editor has changed: unless a pass is running, the change is reported and the timer armed. -/
def contentChanged (l : SessionLoop) (id : Nat) : Except Fault Unit × SessionLoop :=
  if (l.state.session id).isResolving then (.ok (), l)
  else
    match l.state.tellUpdate id .codeChanged with
    | (.error fault, w) => (.error fault, { l with state := w })
    | (.ok _, w) =>
        let s := w.session id
        let (debouncer, atOnce) := s.debouncer.trigger w.now
        let w := { w with turns := w.turns + 1 }.setSession id { s with debouncer, turn := w.turns }
        (.ok (), if atOnce then fire { l with state := w } id else { l with state := w.setTimer id })

/-- Sessions hear of a change one after another, up to the first that raises a fault. -/
def tellChanged (l : SessionLoop) : List Nat → Except Fault Unit × SessionLoop
  | [] => (.ok (), l)
  | id :: rest =>
      match l.contentChanged id with
      | (.error fault, l) => (.error fault, l)
      | (.ok _, l) => tellChanged l rest

def notify (l : SessionLoop) (editor : Nat) : SessionLoop :=
  (l.tellChanged (l.state.editor editor).listeners).2

def setText (l : SessionLoop) (editor : Nat) (text : String) : SessionLoop :=
  l.update fun w => w.mapEditor editor fun e => { e with text }

def edit (l : SessionLoop) (editor : Nat) (text : String) : SessionLoop :=
  notify (setText l editor text) editor

/-! ## Time -/

def fireDue (l : SessionLoop) : SessionLoop :=
  let (due, timers) := l.state.timers.due l.state.isArmed l.state.now
  (due.map Timer.owner).foldl fire (l.update fun w => { w with timers })

def settle (l : SessionLoop) : SessionLoop := Loop.settle (fireDue (Loop.settle l))

def advance (l : SessionLoop) (seconds : Double) : SessionLoop :=
  settle ((settle l).update fun w => { w with now := Instant.later w.now seconds })

/-! ## Calls -/

/-- Why a call does not return: a callback raised a fault, or the options did not accept a value. -/
inductive Refusal where
  | raised (fault : Fault)
  | invalid (problems : Invalid)
  deriving Repr, DecidableEq

/-- Pins the versions for the passes to come: first in the resolver, which reports them, then in the
options, which accept texts only. -/
def setVersions (l : SessionLoop) (id : Nat) (pins : Pins) : Except Refusal Unit × SessionLoop :=
  match (l.state.mapSession id (·.setPins pins)).tellVersions id pins with
  | (.error fault, w) => (.error (.raised fault), { l with state := w })
  | (.ok _, w) =>
      match (w.session id).options.assign "versions" (.object pins.entries) with
      | .ok options => (.ok (), { l with state := w.mapSession id (·.setOptions options) })
      | .error invalid => (.error (.invalid invalid), { l with state := w })

def setOption (l : SessionLoop) (id : Nat) (name : String) (value : Value) :
    Except Invalid Unit × SessionLoop :=
  match (l.state.session id).options.assign name value with
  | .ok options => (.ok (), l.update fun w => w.mapSession id (·.setOptions options))
  | .error invalid => (.error invalid, l)

def clearCache (l : SessionLoop) (id : Nat) : Except Fault Unit × SessionLoop :=
  let (result, workspace) := l.state.workspace.clearCache (l.state.session id).resolver.cache
  (result, l.update fun w => { w with workspace })

def dispose (l : SessionLoop) (id : Nat) : SessionLoop := l.update fun w => w.dispose id

def close (l : SessionLoop) (id : Nat) : SessionLoop := l.update fun w => w.close id

end SessionLoop

end DeclarationFetch
