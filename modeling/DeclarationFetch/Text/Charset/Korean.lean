import DeclarationFetch.Text.Grid.KsX1001

/-!
# Korean character sets

The places of the Korean grid, with three ways to write the syllables that the grid has not: as a
sequence of letters, in the order of the syllables, or by the numbers of their letters.
-/

namespace DeclarationFetch.Text.Charset

/-! ## Syllables and letters -/

/-- The consonants that begin a syllable. -/
def initials : List Char := "ㄱㄲㄴㄷㄸㄹㅁㅂㅃㅅㅆㅇㅈㅉㅊㅋㅌㅍㅎ".toList

/-- The vowels. -/
def medials : List Char := (List.range 21).map fun n => Char.ofNat (0x314F + n)

/-- The consonants that end a syllable. -/
def finals : List Char := "ㄱㄲㄳㄴㄵㄶㄷㄹㄺㄻㄼㄽㄾㄿㅀㅁㅂㅄㅅㅆㅇㅈㅊㅋㅌㅍㅎ".toList

/-- A syllable by the numbers of its letters, the last of which is zero if there is no consonant. -/
def syllable (first middle last : Nat) : Char :=
  Char.ofNat (0xAC00 + (first * 21 + middle) * 28 + last)

/-- The syllables that the grid has not, in their order. -/
def furtherSyllables : Thunk (Array Char) := Thunk.mk fun _ =>
  let missing := (List.range 11172).foldl (fun (found, shown) n =>
    let c := Char.ofNat (0xAC00 + n)
    match shown with
    | next :: rest => if c = next then (found, rest) else (c :: found, shown)
    | [] => (c :: found, [])) (([], Grid.ksX1001.between 16 40) : List Char × List Char)
  missing.1.reverse.toArray

def korean? (a b : Nat) : Option Char := Grid.ksX1001.char? (a - 0xA0) (b - 0xA0)

/-! ## EUC -/

def isFiller (a b : Nat) : Bool := a = 0xA4 && b = 0xD4

/-- The letter of the second byte of a place in the row of letters. -/
def letterOf (b : Nat) : Char := Char.ofNat (0x3131 + (b - 0xA1))

def spelled? (first middle last : Nat) : Option Char := do
  let i ← initials.idxOf? (letterOf first)
  let m ← medials.idxOf? (letterOf middle)
  let f ← if last = 0xD4 then some 0 else (finals.idxOf? (letterOf last)).map (· + 1)
  if first < 0xA1 ∨ middle < 0xA1 ∨ last < 0xA1 then none else some (syllable i m f)

def readKorean : List Nat → Reading := afterAscii fun
  | a :: b :: rest =>
      if isFiller a b then
        match rest with
        | p :: first :: q :: middle :: r :: last :: _ =>
            .ofChar? (if [p, q, r].all (· = 0xA4) then spelled? first middle last else none) 8
        | _ => .short
      else .ofChar? (korean? a b) 2
  | _ => .short

/-! ## The order of the syllables -/

/-- The number of a second byte among letters in both cases and bytes from 0x81 on. -/
def trail? (b : Nat) : Option Nat :=
  if 0x41 ≤ b ∧ b ≤ 0x5A then some (b - 0x41)
  else if 0x61 ≤ b ∧ b ≤ 0x7A then some (b - 0x61 + 26)
  else if 0x81 ≤ b ∧ b ≤ 0xFE then some (b - 0x81 + 52)
  else none

/-- Lead bytes up to 0xA0 have 178 second bytes, and those after them the 84 beside the grid. -/
def unified? (a b : Nat) : Option Char := do
  if 0xA1 ≤ a ∧ 0xA1 ≤ b then korean? a b
  else
    let n ← trail? b
    if a < 0x81 then none
    else if a ≤ 0xA0 then furtherSyllables.get[178 * (a - 0x81) + n]?
    else furtherSyllables.get[178 * 32 + 84 * (a - 0xA1) + n]?

def readUnified : List Nat → Reading := afterAscii fun
  | a :: b :: _ => .ofChar? (unified? a b) 2
  | _ => .short

/-! ## The numbers of the letters -/

/-- What five bits say about a letter: none at all, a gap, or a letter by its number. -/
inductive Slot where
  | none
  | gap
  | letter (n : Nat)
  deriving Repr, DecidableEq

/-- The letters of a position follow the code of a gap, in runs. -/
def slot (gap : Nat) (runs : List (Nat × Nat × Nat)) (n : Nat) : Slot :=
  if n = gap then .gap
  else match runs.find? fun run => run.1 ≤ n && n < run.1 + run.2.1 with
    | some run => .letter (run.2.2 + (n - run.1))
    | Option.none => .none

def initialSlot : Nat → Slot := slot 1 [(2, 19, 0)]

def medialSlot : Nat → Slot := slot 2 [(3, 5, 0), (10, 6, 5), (18, 6, 11), (26, 4, 17)]

def finalSlot : Nat → Slot := slot 1 [(2, 16, 0), (19, 11, 16)]

/-- A syllable, or a letter that stands alone. -/
def combined? (i m f : Slot) : Option Char :=
  match i, m, f with
  | .letter i, .letter m, .letter f => some (syllable i m (f + 1))
  | .letter i, .letter m, .gap => some (syllable i m 0)
  | .letter i, .gap, .gap => initials[i]?
  | .gap, .letter m, .gap => medials[m]?
  | .gap, .gap, .letter f => finals[f]?
  | .gap, .gap, .gap => some (Char.ofNat 0x3000)
  | _, _, _ => none

/-- The row and the place of two bytes beside the syllables. The letters of the grid are not among
them. -/
def symbolPlace? (a b : Nat) : Option (Nat × Nat) :=
  if a < 0xD9 ∨ a = 0xDF ∨ 0xF9 < a ∨ b < 0x31 ∨ (0x7F ≤ b ∧ b < 0x91) ∨ b = 0xFF ∨
      (a = 0xDA ∧ 0xA1 ≤ b ∧ b ≤ 0xD3) then none
  else
    let pair := if a < 0xE0 then 2 * (a - 0xD9) else 2 * (a - 0xE0) + 41
    let place := if b < 0x91 then b - 0x31 else b - 0x43
    some (pair + place / 94 + 1, place % 94 + 1)

def johab? (a b : Nat) : Option Char :=
  if a < 0xD8 then
    combined? (initialSlot (a / 4 % 32)) (medialSlot ((a * 8 + b / 32) % 32)) (finalSlot (b % 32))
  else (symbolPlace? a b).bind fun cell => Grid.ksX1001.char? cell.1 cell.2

def readJohab : List Nat → Reading := afterAscii fun
  | a :: b :: _ => .ofChar? (johab? a b) 2
  | _ => .short

def korean : List Charset := [
  .total ["euc_kr", "euckr", "korean", "ks_c_5601", "ks_c_5601_1987", "ks_x_1001", "ksc5601", "ksx1001",
    "x_mac_korean"] (readAll readKorean),
  .total ["cp949", "949", "ms949", "uhc"] (readAll readUnified),
  .total ["johab", "cp1361", "ms1361"] (readAll readJohab)]

end DeclarationFetch.Text.Charset
