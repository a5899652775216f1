import DeclarationFetch.Clock

/-!
# Timers

The timers that are set, as a binary heap by their instants: no timer is set for an earlier instant than
the one above it. Timers of the same instant go off in the order in which they come up in the heap.

A timer that was disarmed stays in the heap until it comes up; who is asked says whether a timer still
counts.
-/

namespace DeclarationFetch

structure Timer where
  due : Instant
  owner : Nat
  turn : Nat
  deriving Repr, DecidableEq

structure Timers where
  heap : Array Timer := #[]
  deriving Repr

namespace Timers

/-- Whether the timer at one place is set for an earlier instant than that at another. -/
def isEarlier (heap : Array Timer) (i j : Nat) : Bool :=
  match heap[i]?, heap[j]? with
  | some a, some b => a.due.lt b.due
  | _, _ => false

/-- Moves the timer at a place up as far as it is earlier than the one above. -/
def rise (heap : Array Timer) (i : Nat) : Array Timer :=
  if i = 0 then heap
  else
    let above := (i - 1) / 2
    if isEarlier heap i above then rise (heap.swapIfInBounds i above) above else heap
termination_by i

/-- The earlier one of the two places below; the right one if they are equal. -/
def below? (heap : Array Timer) (i : Nat) : Option Nat :=
  let left := 2 * i + 1
  if left < heap.size then
    some (if left + 1 < heap.size && !isEarlier heap left (left + 1) then left + 1 else left)
  else none

/-- Moves the timer at a place down to the bottom, at most so many steps; gives its place there. -/
def sink : Nat → Array Timer → Nat → Array Timer × Nat
  | 0, heap, i => (heap, i)
  | steps + 1, heap, i =>
      match below? heap i with
      | some child => sink steps (heap.swapIfInBounds i child) child
      | none => (heap, i)

def push (t : Timers) (timer : Timer) : Timers := ⟨rise (t.heap.push timer) t.heap.size⟩

def first? (t : Timers) : Option Timer := t.heap[0]?

/-- Removes the first timer; the last one of the heap takes its place, sinks and rises again. -/
def pop (t : Timers) : Timers :=
  let heap := (t.heap.swapIfInBounds 0 (t.heap.size - 1)).pop
  let (heap, i) := sink heap.size heap 0
  ⟨rise heap i⟩

/-- The timers that go off now, in order, and what is left. Those that do not count are dropped. -/
def takeDue (counts : Timer → Bool) (now : Instant) : Nat → Timers → List Timer × Timers
  | 0, t => ([], t)
  | steps + 1, t =>
      match t.first? with
      | none => ([], t)
      | some timer =>
          if counts timer && !Instant.reached timer.due now then ([], t)
          else
            let (others, left) := takeDue counts now steps t.pop
            (if counts timer then timer :: others else others, left)

def due (t : Timers) (counts : Timer → Bool) (now : Instant) : List Timer × Timers :=
  takeDue counts now t.heap.size t

example : ((((({} : Timers).push ⟨5.0, 0, 0⟩).push ⟨5.0, 1, 1⟩).push ⟨5.0, 2, 2⟩).push ⟨5.0, 3, 3⟩
    |>.due (fun _ => true) 5.0).1.map Timer.owner = [0, 2, 1, 3] := by decide +kernel

end Timers

end DeclarationFetch
