import DeclarationFetch.Double

/-!
# Time

Instants and delays in seconds, as doubles. The clock goes in ticks of a billionth of a second, and a
timer goes off in the tick in which its instant lies. Late on the clock a tick is less than the distance
of two doubles; then a timer goes off only after its instant.
-/

namespace DeclarationFetch

abbrev Instant := Double

namespace Instant

def tick : Double := 1e-9

def start : Instant := 0.0

/-- Whether a timer that is set for an instant goes off now. One that is set for no instant at all does. -/
def reached (due now : Instant) : Bool := !(now + tick).le due

def later (now : Instant) (seconds : Double) : Instant := now + seconds

example : reached 1.0 0.9999999991 = true ∧ reached 1.0 0.999999998 = false := by decide +kernel

end Instant

end DeclarationFetch
