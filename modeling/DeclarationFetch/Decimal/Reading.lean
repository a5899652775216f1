import DeclarationFetch.Double

/-!
# Reading decimals

The double nearest to a decimal, for digits and exponents of any length.
-/

namespace DeclarationFetch.Decimal

/-- The value of a run of decimal digits; other characters are passed over. -/
def natOfDigits (digits : List Char) : Nat :=
  digits.foldl (fun n c => if c.isDigit then n * 10 + (c.toNat - 48) else n) 0

/-- Integers of more digits are refused. -/
def mostIntegerDigits : Nat := 4300

/-- The double nearest to `digits * 10 ^ exponent`; magnitudes out of range become zero or infinite. -/
def toDouble (negative : Bool) (digits : Nat) (exponent : Int) : Double :=
  let magnitude : Int := (Nat.toDigits 10 digits).length + exponent
  if digits = 0 ∨ magnitude < -330 then .finite negative 0
  else if magnitude > 310 then .infinite negative
  else if exponent < 0 then .ofRatio negative digits (Nat.pow 10 exponent.natAbs)
  else .ofRatio negative (digits * Nat.pow 10 exponent.natAbs) 1

end DeclarationFetch.Decimal
