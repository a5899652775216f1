import DeclarationFetch.Text.Grid.JisX0208
import DeclarationFetch.Text.Grid.JisX0212
import DeclarationFetch.Text.Grid.JisX0213
import DeclarationFetch.Text.Grid.Vendor

/-!
# Japanese character sets

Two ways to write the places of the Japanese grids beside ASCII: Shift JIS folds two rows into one lead
byte and leaves room for half-width kana, and EUC gives row and place a byte each, with prefix bytes for
kana and for a second grid.
-/

namespace DeclarationFetch.Text.Charset

/-- What stands at a row and a place. -/
abbrev Cells := Nat → Nat → Option (List Char)

def Reading.ofChars? (cs : Option (List Char)) (width : Nat) : Reading :=
  match cs with
  | some cs => .chars cs width
  | none => .wrong 1

def cellsOf (g : Grid) : Cells := fun row place => (g.char? row place).map ([·])

def Cells.orElse (a b : Cells) : Cells := fun row place => (a row place).or (b row place)

/-- The half-width kana of a byte. -/
def kana? (b : Nat) : Option Char :=
  if 0xA1 ≤ b ∧ b ≤ 0xDF then some (Char.ofNat (0xFEC0 + b)) else none

/-- ASCII with a yen sign for the backslash and an overline for the tilde. -/
def romanChar (b : Nat) : Char :=
  if b = 0x5C then Char.ofNat 0xA5 else if b = 0x7E then Char.ofNat 0x203E else Char.ofNat b

/-! ## The grids of 2000 and 2004 -/

/-- Places that hold a character and a mark on it. -/
def marked : List ((Nat × Nat) × String) := [
  ((4, 87), "か\u309a"), ((4, 88), "き\u309a"), ((4, 89), "く\u309a"), ((4, 90), "け\u309a"),
  ((4, 91), "こ\u309a"), ((5, 87), "カ\u309a"), ((5, 88), "キ\u309a"), ((5, 89), "ク\u309a"),
  ((5, 90), "ケ\u309a"), ((5, 91), "コ\u309a"), ((5, 92), "セ\u309a"), ((5, 93), "ツ\u309a"),
  ((5, 94), "ト\u309a"), ((6, 88), "ㇷ\u309a"), ((11, 36), "æ\u0300"), ((11, 40), "ɔ\u0300"),
  ((11, 41), "ɔ\u0301"), ((11, 42), "ʌ\u0300"), ((11, 43), "ʌ\u0301"), ((11, 44), "ə\u0300"),
  ((11, 45), "ə\u0301"), ((11, 46), "ɚ\u0300"), ((11, 47), "ɚ\u0301"), ((11, 69), "˩˥"),
  ((11, 70), "˥˩")]

/-- The tilde has the place of an overline. -/
def first2004 : Cells := fun row place =>
  if (row, place) = (2, 18) then some ['~']
  else ((marked.lookup (row, place)).map String.toList).or
    (((cellsOf .jisX0208).orElse (cellsOf .jisX0213First)) row place)

def second2004 : Cells := cellsOf .jisX0213Second

/-- Places that the grid of 2000 leaves open, which are replaced as a whole. -/
def addedIn2004 : List (Nat × Nat) :=
  [(14, 1), (15, 94), (47, 52), (47, 94), (84, 7), (94, 90), (94, 91), (94, 92), (94, 93), (94, 94)]

def first2000 : Cells := fun row place =>
  if addedIn2004.contains (row, place) then some [replacement] else first2004 row place

def second2000 : Cells := fun row place =>
  if (row, place) = (93, 27) then some ['鬝'] else second2004 row place

/-! ## Shift JIS -/

/-- The row and the place of two bytes. Lead bytes go on behind the half-width kana. -/
def unshift? (a b : Nat) : Option (Nat × Nat) :=
  if (0x81 ≤ a ∧ a ≤ 0x9F ∨ 0xE0 ≤ a ∧ a ≤ 0xFC) ∧ (0x40 ≤ b ∧ b ≤ 0x7E ∨ 0x80 ≤ b ∧ b ≤ 0xFC) then
    let pair := if a < 0xE0 then a - 0x81 else a - 0xC1
    let place := if b < 0x80 then b - 0x40 else b - 0x41
    some (2 * pair + place / 94 + 1, place % 94 + 1)
  else none

def isShiftLead (b : Nat) : Bool := 0x81 ≤ b && b ≤ 0x9F || 0xE0 ≤ b && b ≤ 0xFC

/-- Reads bytes that stand for themselves as told, and two bytes by their row and place. -/
def readShifted (single : Nat → Option Char) (cells : Cells) : List Nat → Reading
  | [] => .short
  | a :: rest =>
      match single a with
      | some c => .char c 1
      | none =>
          if !isShiftLead a then .wrong 1
          else match rest with
            | [] => .short
            | b :: _ => .ofChars? ((unshift? a b).bind fun cell => cells cell.1 cell.2) 2

def asciiOrKana (b : Nat) : Option Char := if b < 0x80 then some (Char.ofNat b) else kana? b

def romanOrKana (b : Nat) : Option Char := if b < 0x80 then some (romanChar b) else kana? b

/-- The rows of the second grid, as they follow those of the first one. -/
def secondRows : List Nat := [1, 8, 3, 4, 5, 12, 13, 14, 15] ++ (List.range 17).map (· + 78)

def shifted2004 (first second : Cells) : Cells := fun row place =>
  if row ≤ 94 then
    if (row, place) = (1, 32) then some ['\\'] else first row place
  else (secondRows[row - 95]?).bind fun row => second row place

def windowsSymbols : List ((Nat × Nat) × Nat) :=
  [((1, 33), 0xFF5E), ((1, 34), 0x2225), ((1, 61), 0xFF0D), ((1, 81), 0xFFE0), ((1, 82), 0xFFE1),
    ((2, 44), 0xFFE2)]

/-- The places of Windows, with characters for private use between the rows of the vendors. -/
def windowsCells : Cells := fun row place =>
  ((windowsSymbols.lookup (row, place)).map fun code => [Char.ofNat code]).or
    (if 95 ≤ row ∧ row ≤ 114 then some [Char.ofNat (0xE000 + (row - 95) * 94 + (place - 1))]
    else ((cellsOf .jisX0208).orElse (cellsOf .vendorRows)) row place)

def windowsSingle (b : Nat) : Option Char :=
  if b ≤ 0x80 then some (Char.ofNat b)
  else if b = 0xA0 then some (Char.ofNat 0xF8F0)
  else if 0xFD ≤ b then some (Char.ofNat (0xF8F1 + (b - 0xFD)))
  else kana? b

/-! ## EUC -/

/-- Reads two bytes as row and place of a first grid, and after a prefix those of a second one. -/
def readExtended (first second : Cells) : List Nat → Reading := afterAscii fun
  | 0x8E :: rest =>
      match rest with
      | [] => .short
      | b :: _ => .ofChar? (kana? b) 2
  | 0x8F :: rest =>
      match rest with
      | a :: b :: _ => .ofChars? (second (a - 0xA0) (b - 0xA0)) 3
      | _ => .short
  | a :: b :: _ => .ofChars? (first (a - 0xA0) (b - 0xA0)) 2
  | _ => .short

/-- The tilde has full width. -/
def extended2004 (first : Cells) : Cells := fun row place =>
  if (row, place) = (2, 18) then some [Char.ofNat 0xFF5E] else first row place

def japanese : List Charset := [
  .total ["shift_jis", "csshiftjis", "s_jis", "shiftjis", "sjis", "x_mac_japanese"]
    (readAll (readShifted asciiOrKana (cellsOf .jisX0208))),
  .total ["shift_jis_2004", "s_jis_2004", "shiftjis2004", "sjis_2004"]
    (readAll (readShifted romanOrKana (shifted2004 first2004 second2004))),
  .total ["shift_jisx0213", "s_jisx0213", "shiftjisx0213", "sjisx0213"]
    (readAll (readShifted romanOrKana (shifted2004 first2000 second2000))),
  .total ["cp932", "932", "ms932", "ms_kanji", "mskanji"]
    (readAll (readShifted windowsSingle windowsCells)),
  .total ["euc_jp", "eucjp", "u_jis", "ujis"]
    (readAll (readExtended (cellsOf .jisX0208) (cellsOf .jisX0212))),
  .total ["euc_jis_2004", "euc_jis2004", "eucjis2004", "jisx0213"]
    (readAll (readExtended (extended2004 first2004) (second2004.orElse (cellsOf .jisX0212)))),
  .total ["euc_jisx0213", "eucjisx0213"]
    (readAll (readExtended (extended2004 first2000) (second2000.orElse (cellsOf .jisX0212))))]

end DeclarationFetch.Text.Charset
