import DeclarationFetch.Clock
import DeclarationFetch.Loop

/-!
# Debouncers

A debouncer turns a burst of triggers into one run: each trigger disarms the timer and arms it again, so
that only the last of them leads to a run. Without a delay every trigger leads to a run at once.
-/

namespace DeclarationFetch

structure Debouncer where
  /-- Seconds from a trigger to the run. -/
  delay : Double
  /-- When the timer goes off, if it is armed. -/
  due : Option Instant := none
  /-- The task of the last run. -/
  task : Option Nat := none

namespace Debouncer

def pending (d : Debouncer) : Bool := d.due.isSome

def cancel (d : Debouncer) : Debouncer := { d with due := none }

/-- The debouncer after a trigger, and whether there is to be a run at once. -/
def trigger (d : Debouncer) (now : Instant) : Debouncer × Bool :=
  if d.delay.le 0.0 then (d.cancel, true)
  else ({ d with due := some (Instant.later now d.delay) }, false)

def isDue (d : Debouncer) (now : Instant) : Bool := d.due.any (Instant.reached · now)

/-- The timer has gone off, and this task is the run. -/
def fired (d : Debouncer) (task : Nat) : Debouncer := { d with due := none, task := some task }

end Debouncer

structure Debounced (σ : Type) where
  debouncer : Debouncer
  loop : Loop σ
  callback : σ → Course σ
  now : Instant := .start

namespace Debounced

variable {σ : Type}

def fire (d : Debounced σ) : Debounced σ :=
  let (id, loop) := d.loop.spawn d.callback
  { d with loop, debouncer := d.debouncer.fired id }

def trigger (d : Debounced σ) : Debounced σ :=
  let (debouncer, atOnce) := d.debouncer.trigger d.now
  let d := { d with debouncer }
  if atOnce then d.fire else d

def cancel (d : Debounced σ) : Debounced σ := { d with debouncer := d.debouncer.cancel }

def fireDue (d : Debounced σ) : Debounced σ := if d.debouncer.isDue d.now then d.fire else d

def settle (d : Debounced σ) : Debounced σ :=
  let d := { d with loop := d.loop.settle }.fireDue
  { d with loop := d.loop.settle }

/-- Moves the clock in one jump. -/
def advance (d : Debounced σ) (seconds : Double) : Debounced σ :=
  let d := d.settle
  { d with now := Instant.later d.now seconds }.settle

def block (d : Debounced σ) : Debounced σ := { d with loop := d.loop.block }

def release (d : Debounced σ) : Debounced σ := { d with loop := d.loop.release }.settle

end Debounced

structure Tally where
  started : Nat := 0
  finished : Nat := 0
  deriving Repr, DecidableEq

/-- A callback that waits at the gate, and is counted as it begins and as it ends well. -/
def Tally.callback (fault : Option Fault) (t : Tally) : Course Tally :=
  .waiting true { t with started := t.started + 1 } fun thrown t =>
    match thrown.or fault with
    | some f => .ended (.error f) t
    | none => .ended (.ok ()) { t with finished := t.finished + 1 }

end DeclarationFetch
