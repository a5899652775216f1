import DeclarationFetch.Fault

/-!
# The event loop

Tasks that run one at a time on a shared state. A task runs until it ends or has to wait. What it waits
for comes at once, unless that is behind the gate and the gate is closed; the tasks that wait there go
on, first come first served, once the gate is open again.

A task that is to go on may be thrown a fault instead, as it is when it is cancelled.
-/

namespace DeclarationFetch

/-- A task that has come to its end, or waits for something that may be behind the gate. It goes on with
the state that it finds then and with the fault that it is thrown, if any. -/
inductive Course (σ : Type) where
  | ended (result : Except Fault Unit) (state : σ)
  | waiting (gated : Bool) (state : σ) (resume : Option Fault → σ → Course σ)

namespace Course

variable {σ : Type}

def andThen (next : Except Fault Unit → σ → Course σ) : Course σ → Course σ
  | ended result state => next result state
  | waiting gated state resume => waiting gated state fun thrown state => (resume thrown state).andThen next

def closing (f : σ → σ) (c : Course σ) : Course σ := c.andThen fun result state => .ended result (f state)

def onFailure (f : σ → σ) (c : Course σ) : Course σ :=
  c.andThen fun result state =>
    match result with
    | .ok _ => .ended result state
    | .error _ => .ended result (f state)

end Course

inductive TaskState where
  | running
  | done
  | failed (fault : Fault)
  deriving Repr, DecidableEq

def TaskState.ofResult : Except Fault Unit → TaskState
  | .ok _ => done
  | .error fault => failed fault

structure Loop (σ : Type) where
  state : σ
  gateOpen : Bool := true
  tasks : List TaskState := []
  /-- The tasks that go on when the loop runs, in order. -/
  ready : List (Nat × (Option Fault → σ → Course σ)) := []
  /-- The tasks at the gate, in the order in which they came. -/
  waiting : List (Nat × (Option Fault → σ → Course σ)) := []

namespace Loop

variable {σ : Type}

def task? (l : Loop σ) (id : Nat) : Option TaskState := l.tasks[id]?

/-- A task that has not begun; if it is thrown a fault it never does. -/
def unbegun (body : σ → Course σ) : Option Fault → σ → Course σ
  | some fault, state => .ended (.error fault) state
  | none, state => body state

def spawn (l : Loop σ) (body : σ → Course σ) : Nat × Loop σ :=
  (l.tasks.length,
    { l with
      tasks := l.tasks ++ [.running]
      ready := l.ready ++ [(l.tasks.length, unbegun body)] })

/-- Puts a task that has come so far where it belongs. -/
def park (l : Loop σ) (id : Nat) : Course σ → Loop σ
  | .ended result state => { l with state := state, tasks := l.tasks.set id (.ofResult result) }
  | .waiting _ state resume => { l with state := state, waiting := l.waiting ++ [(id, resume)] }

def follow (l : Loop σ) (id : Nat) : Course σ → Loop σ
  | .ended result state => l.park id (.ended result state)
  | .waiting gated state resume =>
      if l.gateOpen || !gated then follow l id (resume none state)
      else l.park id (.waiting gated state resume)

def settle (l : Loop σ) : Loop σ :=
  l.ready.foldl (fun l entry => l.follow entry.1 (entry.2 none l.state)) { l with ready := [] }

def block (l : Loop σ) : Loop σ := { l with gateOpen := false }

/-- Opens the gate; the tasks at it go on after those that are ready. -/
def release (l : Loop σ) : Loop σ :=
  { l with gateOpen := true, ready := l.ready ++ l.waiting, waiting := [] }

/-- Throws a fault into a task when it goes on next, which it does when the loop runs. -/
def throw (l : Loop σ) (id : Nat) (fault : Fault) : Loop σ :=
  let hit (entry : Nat × (Option Fault → σ → Course σ)) :=
    if entry.1 = id then (entry.1, fun _ => entry.2 (some fault)) else entry
  { l with
    ready := l.ready.map hit ++ (l.waiting.filter fun entry => entry.1 = id).map hit
    waiting := l.waiting.filter fun entry => entry.1 ≠ id }

def update (l : Loop σ) (f : σ → σ) : Loop σ := { l with state := f l.state }

end Loop

end DeclarationFetch
