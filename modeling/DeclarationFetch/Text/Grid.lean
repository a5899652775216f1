import DeclarationFetch.Text.Charset.Basic

/-!
# Grids of characters

A grid gives characters by row and place, both counted from one. Its rows are written as texts, in which
a place without a character holds the replacement character. Rows without characters are left out.
-/

namespace DeclarationFetch.Text

structure Grid where
  rows : List (Nat × String)
  deriving Repr, DecidableEq

namespace Grid

def char? (g : Grid) (row place : Nat) : Option Char :=
  if place = 0 then none
  else ((g.rows.lookup row).bind fun cs => cs.toList[place - 1]?).filter (· ≠ replacement)

/-- The rows between two ones, and the characters of each. -/
def between (g : Grid) (first last : Nat) : List Char :=
  (g.rows.filter fun row => first ≤ row.1 && row.1 ≤ last).flatMap fun row =>
    row.2.toList.filter (· ≠ replacement)

end Grid

end DeclarationFetch.Text
