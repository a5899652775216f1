import DeclarationFetch.Decimal.Reading
import DeclarationFetch.Text.Basic

/-!
# Numerals

Numbers as they are written in settings and on the command line.

* A whole number has an optional sign and digits.
* A decimal has an optional sign, digits with at most one point among them, and an optional exponent;
  `inf`, `infinity` and `nan` stand for themselves in any case.
* Single underscores may group digits where a format says so.
-/

namespace DeclarationFetch.Decimal

/-- A text without its sign, and whether the sign is a minus. -/
def unsign (cs : List Char) : Bool × List Char :=
  match cs with
  | '-' :: rest => (true, rest)
  | '+' :: rest => (false, rest)
  | _ => (false, cs)

def isNumeral (digits : List Char) : Bool := !digits.isEmpty && digits.all Char.isDigit

def wholeNumber? (cs : List Char) : Option Int :=
  let (negative, digits) := unsign cs
  if isNumeral digits then
    let size : Int := natOfDigits digits
    some (if negative then -size else size)
  else none

/-- No underscore at either end, and no two side by side. -/
def groupsWell (cs : List Char) : Bool :=
  cs.head? ≠ some '_' && cs.getLast? ≠ some '_' &&
    (cs.zip (cs.drop 1)).all fun pair => !(pair.1 = '_' && pair.2 = '_')

def ungroup? (cs : List Char) : Option (List Char) :=
  if cs.contains '_' && groupsWell cs then some (cs.filter (· ≠ '_')) else none

def groupsDigits : List Char → Bool
  | [] => true
  | [c] => c ≠ '_'
  | c :: '_' :: rest =>
      c.isDigit && (rest.head?.any Char.isDigit) && groupsDigits rest
  | c :: rest => c ≠ '_' && groupsDigits rest

def named? (negative : Bool) (word : String) : Option Double :=
  if word = "inf" ∨ word = "infinity" then some (.infinite negative)
  else if word = "nan" then some (.nan negative)
  else none

/-- The digits before and after the point, of which there is at least one. -/
def mantissa? (cs : List Char) : Option (List Char × List Char × List Char) :=
  let (whole, rest) := cs.span Char.isDigit
  let (places, rest) := match rest with
    | '.' :: more => more.span Char.isDigit
    | _ => ([], rest)
  if whole.isEmpty && places.isEmpty then none else some (whole, places, rest)

/-- Nothing, or an exponent mark and a whole number. -/
def exponent? (cs : List Char) : Option Int :=
  match cs with
  | [] => some 0
  | c :: rest => if c = 'e' ∨ c = 'E' then wholeNumber? rest else none

def unsigned? (negative : Bool) (cs : List Char) : Option Double := do
  let (whole, places, rest) ← mantissa? cs
  let power ← exponent? rest
  return toDouble negative (natOfDigits (whole ++ places)) (power - places.length)

def decimal? (cs : List Char) : Option Double :=
  let (negative, size) := unsign cs
  named? negative (String.ofList (size.map Char.toLower)) <|> unsigned? negative size

/-- The double nearest to a whole number, unless it is out of range. -/
def ofInt? (n : Int) : Option Double :=
  match Double.ofRatio (n < 0) n.natAbs 1 with
  | .infinite _ => none
  | x => some x

end DeclarationFetch.Decimal
