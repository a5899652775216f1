/-!
# Doubles

Binary floating point numbers of sixty-four bits.

* The magnitude of a finite double is a whole number of units of `2 ^ -1074`, the least positive double.
  Sums and comparisons are those of whole numbers.
* A result is the double nearest to the exact one; of two that are equally near, the one with the even
  significand. What is out of range is infinite.
* What is not a number keeps its sign, and no comparison holds of it.
-/

namespace DeclarationFetch

inductive Double where
  | nan (negative : Bool)
  | infinite (negative : Bool)
  | finite (negative : Bool) (units : Nat)
  deriving Repr, DecidableEq

namespace Double

/-! ## Rounding -/

def one : Nat := Nat.pow 2 1074

/-- The whole number nearest to a quotient, the even one in a tie. -/
def roundDiv (numerator denominator : Nat) : Nat :=
  let below := numerator / denominator
  let rest := 2 * (numerator % denominator)
  if rest < denominator ∨ (rest = denominator ∧ below % 2 = 0) then below else below + 1

/-- How many binary places of a number of units lie below the fifty-three of a significand. -/
def spare (units : Nat) : Nat := if units < Nat.pow 2 53 then 0 else units.log2 - 52

def ofUnits (negative : Bool) (numerator denominator : Nat) : Double :=
  let places := spare (numerator / denominator)
  let units := roundDiv numerator (denominator * Nat.pow 2 places) * Nat.pow 2 places
  if units < Nat.pow 2 2098 then finite negative units else infinite negative

def ofRatio (negative : Bool) (numerator denominator : Nat) : Double :=
  ofUnits negative (numerator * one) denominator

instance : OfScientific Double :=
  ⟨fun digits below exponent =>
    if below then ofRatio false digits (Nat.pow 10 exponent)
    else ofRatio false (digits * Nat.pow 10 exponent) 1⟩

/-! ## Arithmetic -/

def signed (negative : Bool) (units : Nat) : Int := if negative then -units else units

def neg : Double → Double
  | nan negative => nan !negative
  | infinite negative => infinite !negative
  | finite negative units => finite (!negative) units

/-- Infinities of different signs have no sum. -/
def add : Double → Double → Double
  | nan negative, _ => nan negative
  | _, nan negative => nan negative
  | infinite s, infinite t => if s = t then infinite s else nan true
  | infinite s, finite _ _ => infinite s
  | finite _ _, infinite t => infinite t
  | finite s m, finite t n =>
      let sum := signed s m + signed t n
      if sum = 0 then finite (s && t) 0 else ofUnits (decide (sum < 0)) sum.natAbs 1

/-- Zero and an infinity have no product. -/
def mul : Double → Double → Double
  | nan negative, _ => nan negative
  | _, nan negative => nan negative
  | infinite s, infinite t => infinite (s ^^ t)
  | infinite s, finite t n => if n = 0 then nan true else infinite (s ^^ t)
  | finite s m, infinite t => if m = 0 then nan true else infinite (s ^^ t)
  | finite s m, finite t n => ofUnits (s ^^ t) (m * n) one

instance : Neg Double := ⟨neg⟩
instance : Add Double := ⟨add⟩
instance : Mul Double := ⟨mul⟩

/-! ## Order -/

def le : Double → Double → Bool
  | nan _, _ => false
  | _, nan _ => false
  | infinite s, infinite t => s || !t
  | infinite s, finite _ _ => s
  | finite _ _, infinite t => !t
  | finite s m, finite t n => signed s m ≤ signed t n

def lt (x y : Double) : Bool := le x y && !le y x

/-- The two zeros are equal, and what is not a number is equal to nothing. -/
def eq (x y : Double) : Bool := le x y && le y x

/-! ## Views -/

def isZero : Double → Bool
  | finite _ 0 => true
  | _ => false

/-- The whole number nearest to `scale` times the magnitude, nothing for what is not finite. -/
def scaled (scale : Nat) : Double → Nat
  | finite _ units => roundDiv (units * scale) one
  | _ => 0

def whole? : Double → Option Int
  | finite negative units => if units % one = 0 then some (signed negative (units / one)) else none
  | _ => none

/-- A magnitude as a significand and an exponent of two, of which the significand has at most
fifty-three binary places. -/
def split (units : Nat) : Nat × Int :=
  (units / Nat.pow 2 (spare units), (spare units : Int) - 1074)

/-- The sixty-four bits, from the sign down. -/
def bits : Double → Nat
  | nan negative => negative.toNat * Nat.pow 2 63 + 0x7ff8000000000000
  | infinite negative => negative.toNat * Nat.pow 2 63 + 0x7ff0000000000000
  | finite negative units =>
      let places := spare units
      negative.toNat * Nat.pow 2 63 + places * Nat.pow 2 52 + units / Nat.pow 2 places

example : bits 0.1 = 0x3fb999999999999a ∧ bits (-1.5) = 0xbff8000000000000 := by decide +kernel

example : bits ((0.1 : Double) + 0.2) = 0x3fd3333333333334 := by decide +kernel

end Double

end DeclarationFetch
