import DeclarationFetch.Decimal.Numeral

/-!
# Whole numbers in settings

A whole number as a text of a settings file. The plain form is an optional minus and digits without a
zero in front. A text that is not plain is tidied first: white space around it, a plus, zeros in front, a
fraction of zeros, and single underscores between digits are dropped.
-/

namespace DeclarationFetch.Decimal

inductive WholeFault where
  | malformed
  | tooLong
  deriving Repr, DecidableEq

/-- Reads the plain form. Only so many characters are looked at. -/
def plainWhole (cs : List Char) : Except WholeFault Int :=
  let (negative, size) := match cs with
    | '-' :: rest => (true, rest)
    | _ => (false, cs)
  let (digits, rest) := size.span Char.isDigit
  if digits.isEmpty || (digits.head? = some '0' && digits ≠ ['0']) then .error .malformed
  else if mostIntegerDigits < digits.length + negative.toNat then .error .tooLong
  else if !rest.isEmpty then .error .malformed
  else
    let n : Int := natOfDigits digits
    .ok (if negative then -n else n)

def isNonzero (c : Char) : Bool := '1' ≤ c && c ≤ '9'

/-- What stands after a run of zeros and underscores whose last character is given. -/
def afterZeros? (last : Char) : List Char → Option (List Char)
  | [] => some [last]
  | c :: rest =>
      if c = '0' ∨ c = '_' then afterZeros? c rest
      else if isNonzero c ∨ c = '-' then some (c :: rest)
      else if c = '.' then some (last :: c :: rest)
      else none

def dropZeros? : List Char → Option (List Char)
  | [] => none
  | c :: rest =>
      if c = '0' then afterZeros? c rest
      else if isNonzero c ∨ c = '-' then some (c :: rest)
      else none

/-- The text without a point and the zeros after it. -/
def dropZeroPlaces (cs : List Char) : List Char :=
  match cs.span (· ≠ '.') with
  | (whole, _ :: places) => if !places.isEmpty && places.all (· = '0') then whole else cs
  | _ => cs

def signOff? : List Char → Option (Bool × List Char)
  | '+' :: '-' :: _ => none
  | '-' :: '-' :: _ => none
  | '+' :: rest => some (false, rest)
  | '-' :: rest => some (true, rest)
  | cs => some (false, cs)

/-- The text in a form that is plain if the text stands for a whole number. -/
def tidy? (cs : List Char) : Option (List Char) := do
  let (negative, size) ← signOff? (Text.trimBy Text.isBlank cs)
  let size := dropZeroPlaces (← dropZeros? size)
  let size := (ungroup? size).getD size
  return if negative then '-' :: size else size

def whole (cs : List Char) : Except WholeFault Int :=
  match plainWhole cs with
  | .error .malformed =>
      match tidy? cs with
      | some plain => plainWhole plain
      | none => .error .malformed
  | result => result

example : (whole "-0___5".toList).toOption = some (-5) ∧ (whole "0-2".toList).toOption = some (-2) ∧
    (whole "2.".toList).toOption = none := by decide

end DeclarationFetch.Decimal
