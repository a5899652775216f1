/-!
# Days and moments

Days of the calendar, and times of day on them. A moment may say how far its clock is ahead of the common
one; two such moments are the same when the common clock shows the same, and a moment that does not say
is the same only as one that reads alike.
-/

namespace DeclarationFetch

structure Day where
  year : Nat
  month : Nat
  day : Nat
  deriving Repr, DecidableEq

namespace Day

def isLeap (year : Nat) : Bool := year % 4 = 0 && (year % 100 ≠ 0 || year % 400 = 0)

def daysIn (year month : Nat) : Nat :=
  if month = 2 then if isLeap year then 29 else 28
  else if month = 4 ∨ month = 6 ∨ month = 9 ∨ month = 11 then 30
  else 31

/-- The calendar goes from the year 1 to the year 9999. -/
def isValid (d : Day) : Bool :=
  1 ≤ d.year && d.year ≤ 9999 && 1 ≤ d.month && d.month ≤ 12 && 1 ≤ d.day && d.day ≤ daysIn d.year d.month

/-- The number of days before the first of January. -/
def daysBeforeYear (year : Nat) : Nat :=
  let y := year - 1
  365 * y + y / 4 - y / 100 + y / 400

def number (d : Day) : Nat :=
  let daysBeforeMonth := (List.range (d.month - 1)).foldl (fun days m => days + daysIn d.year (m + 1)) 0
  daysBeforeYear d.year + daysBeforeMonth + d.day

example : number ⟨1, 1, 1⟩ = 1 ∧ number ⟨2000, 3, 1⟩ = 730180 := by decide

end Day

structure Moment where
  day : Day
  hour : Nat
  minute : Nat
  second : Nat
  micro : Nat := 0
  /-- The minutes by which the clock is ahead. -/
  ahead : Option Int := none
  deriving Repr, DecidableEq

namespace Moment

/-- A clock is less than a day ahead or behind. -/
def isValid (m : Moment) : Bool :=
  m.day.isValid && m.hour ≤ 23 && m.minute ≤ 59 && m.second ≤ 59 && m.micro < 1000000 &&
    m.ahead.all fun minutes => minutes.natAbs < 24 * 60

/-- Microseconds since the beginning of the calendar, as the moment's clock shows them. -/
def shown (m : Moment) : Int :=
  ((((m.day.number * 24 + m.hour) * 60 + m.minute) * 60 + m.second) * 1000000 + m.micro : Nat)

def same (m n : Moment) : Bool :=
  match m.ahead, n.ahead with
  | none, none => m.shown = n.shown
  | some a, some b => m.shown - a * 60000000 = n.shown - b * 60000000
  | _, _ => false

end Moment

/-! ## Texts -/

def padded (width n : Nat) : String :=
  let digits := Nat.toDigits 10 n
  String.ofList (List.replicate (width - digits.length) '0' ++ digits)

def Day.text (d : Day) : String := padded 4 d.year ++ "-" ++ padded 2 d.month ++ "-" ++ padded 2 d.day

def Moment.aheadText (minutes : Int) : String :=
  (if minutes < 0 then "-" else "+") ++ padded 2 (minutes.natAbs / 60) ++ ":" ++
    padded 2 (minutes.natAbs % 60)

/-- The day, what stands between, and the time. Microseconds are left out if there are none. -/
def Moment.textWith (between : String) (m : Moment) : String :=
  m.day.text ++ between ++ padded 2 m.hour ++ ":" ++ padded 2 m.minute ++ ":" ++ padded 2 m.second ++
    (if m.micro = 0 then "" else "." ++ padded 6 m.micro) ++ (m.ahead.map aheadText).getD ""

def Moment.text (m : Moment) : String := m.textWith "T"

end DeclarationFetch
