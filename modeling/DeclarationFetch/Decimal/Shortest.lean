import DeclarationFetch.Double

/-!
# Shortest decimals of doubles

The decimal with the fewest digits that reads back as a given double, and of those the nearest one.
The reals that read back as `m * 2 ^ q` lie between the halfway points to its two neighbours, the
ends included when `m` is even. For one digit more at a time, the two decimals of that length next to
the value are tested against these ends in whole numbers.
-/

namespace DeclarationFetch.Decimal

structure Scaled where
  digits : Nat
  exponent : Int
  deriving Repr, DecidableEq

/-- Four times the value and the two ends of its interval, over one denominator. -/
structure Interval where
  low : Nat
  value : Nat
  high : Nat
  denominator : Nat
  closed : Bool

/-- Below a power of two the neighbour is half as far, except at the least exponent. -/
def interval (mantissa : Nat) (exponent : Int) : Interval :=
  let narrow := mantissa = Nat.pow 2 52 ∧ exponent > -1074
  let up := if 0 ≤ exponent then Nat.pow 2 exponent.toNat else 1
  let down := if 0 ≤ exponent then 1 else Nat.pow 2 (-exponent).toNat
  { low := (4 * mantissa - if narrow then 1 else 2) * up
    value := 4 * mantissa * up
    high := (4 * mantissa + 2) * up
    denominator := 4 * down
    closed := mantissa % 2 = 0 }

def Interval.contains (i : Interval) (d : Scaled) : Bool :=
  let point := d.digits * (if 0 ≤ d.exponent then Nat.pow 10 d.exponent.toNat else 1) * i.denominator
  let scale := if 0 ≤ d.exponent then 1 else Nat.pow 10 (-d.exponent).toNat
  if i.closed then i.low * scale ≤ point && point ≤ i.high * scale
  else i.low * scale < point && point < i.high * scale

/-- Of the two decimals next to the value on the grid `10 ^ exponent`, one in the interval: the
nearer if both are, the even one in a tie. -/
def Interval.onGrid? (i : Interval) (exponent : Int) : Option Scaled :=
  let numerator := i.value * (if 0 ≤ exponent then 1 else Nat.pow 10 (-exponent).toNat)
  let denominator := i.denominator * (if 0 ≤ exponent then Nat.pow 10 exponent.toNat else 1)
  let below := numerator / denominator
  let rest := numerator % denominator
  let lower : Scaled := ⟨below, exponent⟩
  let upper : Scaled := ⟨below + 1, exponent⟩
  match i.contains lower, i.contains upper with
  | true, true =>
      if 2 * rest < denominator ∨ (2 * rest = denominator ∧ below % 2 = 0) then some lower
      else some upper
  | true, false => some lower
  | false, true => some upper
  | false, false => none

def digitCount (n : Nat) : Nat := (Nat.toDigits 10 n).length

/-- The power of ten of the leading digit of `numerator / denominator`, or one more. -/
def magnitude (numerator denominator : Nat) : Int :=
  (digitCount numerator : Int) - digitCount denominator

/-- The first grid with a hit, from the coarsest on. -/
def search (i : Interval) : Nat → Int → Option Scaled
  | 0, _ => none
  | grids + 1, exponent =>
      match i.onGrid? exponent with
      | some d => if d.digits = 0 then search i grids (exponent - 1) else some d
      | none => search i grids (exponent - 1)

/-- Moves trailing zeros of the digits into the exponent. -/
def Scaled.trim (d : Scaled) : Nat → Scaled
  | 0 => d
  | fuel + 1 => if d.digits ≠ 0 ∧ d.digits % 10 = 0 then
      Scaled.trim ⟨d.digits / 10, d.exponent + 1⟩ fuel else d

/-- Seventeen significant digits always suffice. -/
def shortest (mantissa : Nat) (exponent : Int) : Scaled :=
  if mantissa = 0 then ⟨0, 0⟩
  else
    let i := interval mantissa exponent
    ((search i 20 (magnitude i.value i.denominator)).getD ⟨0, 0⟩).trim 20

end DeclarationFetch.Decimal
