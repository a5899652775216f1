import DeclarationFetch.Decimal.Numeral
import DeclarationFetch.Text.DecimalDigit
import DeclarationFetch.Text.Hexadecimal

/-!
# Numbers as words

Numbers as a user types them: with white space around them, digits of any script, and single underscores
between digits.
-/

namespace DeclarationFetch.Decimal

/-- The characters of a word in plain digits; none if its underscores do not group digits. -/
def word? (s : String) : Option (List Char) :=
  let cs := (Text.trimBy Text.isBlank s.toList).map Text.plainDigit
  if groupsDigits cs then some (cs.filter (· ≠ '_')) else none

def wholeWord? (s : String) : Option Int := do
  let cs ← word? s
  if mostIntegerDigits < (unsign cs).2.length then none else wholeNumber? cs

/-- The digits after the mark of a base, such as `0x`, which need not be there. -/
def unmark (letter : Char) : List Char → List Char
  | '0' :: c :: rest => if c.toLower = letter then rest else '0' :: c :: rest
  | cs => cs

def wholeWordIn? (base : Nat) (letter : Char) (s : String) : Option Int := do
  let (negative, size) := unsign (← word? s)
  let digits ← (unmark letter size).mapM fun c => (Text.hexValue? c).filter (· < base)
  if digits.isEmpty then none
  else
    let n : Nat := digits.foldl (fun n d => n * base + d) 0
    return if negative then -(n : Int) else n

def decimalWord? (s : String) : Option Double := (word? s).bind decimal?

end DeclarationFetch.Decimal
