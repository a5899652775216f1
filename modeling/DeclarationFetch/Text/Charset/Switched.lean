import DeclarationFetch.Text.Charset.Japanese
import DeclarationFetch.Text.CodePage.Iso
import DeclarationFetch.Text.Grid.Gb2312
import DeclarationFetch.Text.Grid.KsX1001

/-!
# Character sets that switch

Texts of seven bits in which escape sequences say what the bytes after them are (ISO 2022). An escape
sequence names a set by its final byte and puts it into one of three places: the first one is in use, the
second one between two shifts, and the third one for one character at a time.
-/

namespace DeclarationFetch.Text.Charset

def escape : Nat := 0x1B

/-- A set as an escape sequence names it: by its final byte, and whether its characters have two bytes. -/
structure Mark where
  final : Char
  double : Bool := false
  deriving Repr, DecidableEq

def asciiMark : Mark := ⟨'B', false⟩

abbrev Members := Nat → Nat → Option (List Char)

def ofGrid (cells : Cells) : Members := fun a b => cells (a - 0x20) (b - 0x20)

/-- The Japanese grid with a backslash of full width. -/
def ofJapanese : Members := ofGrid (cellsOf .jisX0208)

def ofRoman : Members := fun b _ => some [romanChar b]

def ofKana : Members := fun b _ => (kana? (b + 0x80)).map ([·])

/-- A set that only the third place can hold. -/
def ofNone : Members := fun _ _ => none

structure Switching where
  names : List String
  sets : List (Mark × Members)
  shifts : Bool := false
  third : Bool := false
  /-- Whether a mark of revision may stand in front of an escape sequence. -/
  revised : Bool := true

structure Switches where
  first : Mark := asciiMark
  second : Mark := asciiMark
  third : Mark := asciiMark
  shifted : Bool := false
  /-- Within an escape sequence of another kind. -/
  passing : Bool := false
  deriving Repr, DecidableEq

/-! ## Escape sequences -/

def isFinal (b : Nat) : Bool := (0x41 ≤ b && b ≤ 0x5A) || b = 0x40

def isIntroducer (b : Nat) : Bool := ['(', ')', '$', '.', '&'].any (·.toNat = b)

def mostEscapeBytes : Nat := 16

/-- The length of an escape sequence, `zero` if it goes on for too long; none if it breaks off. -/
def escapeLength? (revised : Bool) : Nat → Nat → List Nat → Option Nat
  | 0, _, _ => some 0
  | left + 1, i, bytes =>
      if mostEscapeBytes ≤ i then some 0
      else match bytes with
        | [] => none
        | b :: rest =>
            if isFinal b then some (i + 1)
            else if revised ∧ b = '&'.toNat ∧ rest.head? = some '@'.toNat then
              escapeLength? revised left (i + 3) (rest.drop 2)
            else escapeLength? revised left (i + 1) rest

/-- The place, counted from one, and the set of an escape sequence. -/
def designation? (s : Switching) (sequence : List Nat) : Option (Nat × Mark) :=
  match sequence.map Char.ofNat with
  | [_, '$', final] => some (1, ⟨final, true⟩)
  | [_, '(', final] => some (1, ⟨final, false⟩)
  | [_, ')', final] => some (2, ⟨final, false⟩)
  | [_, '.', final] => if s.third then some (3, ⟨final, false⟩) else none
  | [_, '$', '(', final] => some (1, ⟨final, true⟩)
  | [_, '$', ')', final] => some (2, ⟨final, true⟩)
  | [_, '&', '@', e, '$', 'B'] => if s.revised ∧ e.toNat = escape then some (1, ⟨'B', true⟩) else none
  | _ => none

def designate (w : Switches) (place : Nat) (mark : Mark) : Switches :=
  match place with
  | 1 => { w with first := mark }
  | 2 => { w with second := mark }
  | _ => { w with third := mark }

def readDesignation (s : Switching) (w : Switches) (bytes : List Nat) : Switches × Reading :=
  match escapeLength? s.revised mostEscapeBytes 1 (bytes.drop 1) with
  | none => (w, .short)
  | some 0 => (w, .wrong 1)
  | some length =>
      match designation? s (bytes.take length) with
      | none => (w, .wrong length)
      | some (place, mark) =>
          if mark = asciiMark ∨ (s.sets.any fun set => set.1 = mark) then
            (designate w place mark, .chars [] length)
          else (w, .wrong length)

/-! ## Characters -/

/-- Code points of the Greek set that its first edition has not. -/
def laterGreek : List Nat := [0xA4, 0xA5, 0xAA]

def greek? (b : Nat) : Option Char :=
  let b := (b + 0x80) % 0x100
  if b < 0x80 then some (Char.ofNat b)
  else if laterGreek.contains b then none
  else (CodePage.iso7.table[b]?).filter (· ≠ replacement)

def thirdChar? (mark : Mark) (b : Nat) : Option Char :=
  if mark.final = 'A' then (if b < 0x80 then some (Char.ofNat (b + 0x80)) else none)
  else if mark.final = 'F' then greek? b
  else if mark = asciiMark ∧ b < 0x80 then some (Char.ofNat b)
  else none

def readMember (s : Switching) (w : Switches) : List Nat → Reading
  | [] => .short
  | a :: rest =>
      let mark := if w.shifted then w.second else w.first
      match s.sets.find? fun set => set.1 = mark with
      | none => .char (Char.ofNat a) 1
      | some set =>
          let width := if mark.double then 2 else 1
          if mark.double ∧ rest = [] then .short
          else match set.2 a (rest.head?.getD 0) with
            | some cs => .chars cs width
            | none => .wrong width

def readSwitched (s : Switching) (w : Switches) : List Nat → Switches × Reading
  | [] => (w, .short)
  | a :: rest =>
      let c := Char.ofNat a
      if w.passing then ({ w with passing := !isFinal a }, .char c 1)
      else if a = escape then
        match rest with
        | [] => (w, .short)
        | b :: more =>
            if isIntroducer b then readDesignation s w (a :: rest)
            else if s.third ∧ b = 'N'.toNat then
              match more with
              | [] => (w, .short)
              | b :: _ =>
                  match thirdChar? w.third b with
                  | some c => (w, .char c 3)
                  | none => (w, .wrong 3)
            else ({ w with passing := true }, .char c 1)
      else if s.shifts ∧ a = 0x0F then ({ w with shifted := false }, .chars [] 1)
      else if s.shifts ∧ a = 0x0E then ({ w with shifted := true }, .chars [] 1)
      else if a = 0x0A then ({ w with shifted := false }, .char c 1)
      else if a < 0x20 then (w, .char c 1)
      else if 0x80 ≤ a then (w, .wrong 1)
      else (w, readMember s w (a :: rest))

def Switching.charset (s : Switching) : Charset := .total s.names (readFrom (readSwitched s) {})

/-! ## The character sets -/

def japaneseSets : List (Mark × Members) :=
  [(⟨'B', true⟩, ofJapanese), (⟨'J', false⟩, ofRoman), (⟨'@', true⟩, ofJapanese)]

def japaneseSupplement : Mark × Members := (⟨'D', true⟩, ofGrid (cellsOf .jisX0212))

def switching : List Switching := [
  { names := ["iso2022_jp", "csiso2022jp", "iso2022jp", "iso_2022_jp"], sets := japaneseSets },
  { names := ["iso2022_jp_1", "iso2022jp_1", "iso_2022_jp_1"]
    sets := japaneseSets ++ [japaneseSupplement] },
  { names := ["iso2022_jp_2", "iso2022jp_2", "iso_2022_jp_2"]
    sets := japaneseSets ++ [japaneseSupplement, (⟨'C', true⟩, ofGrid (cellsOf .ksX1001)),
      (⟨'A', true⟩, ofGrid (cellsOf .gb2312)), (⟨'A', false⟩, ofNone), (⟨'F', false⟩, ofNone)]
    third := true },
  { names := ["iso2022_jp_2004", "iso2022jp_2004", "iso_2022_jp_2004"]
    sets := [(⟨'B', true⟩, ofJapanese), (⟨'Q', true⟩, ofGrid first2004),
      (⟨'P', true⟩, ofGrid second2004)] },
  { names := ["iso2022_jp_3", "iso2022jp_3", "iso_2022_jp_3"]
    sets := [(⟨'B', true⟩, ofJapanese), (⟨'O', true⟩, ofGrid first2000),
      (⟨'P', true⟩, ofGrid second2004)] },
  { names := ["iso2022_jp_ext", "iso2022jp_ext", "iso_2022_jp_ext"]
    sets := japaneseSets ++ [japaneseSupplement, (⟨'I', false⟩, ofKana)] },
  { names := ["iso2022_kr", "csiso2022kr", "iso2022kr", "iso_2022_kr"]
    sets := [(⟨'C', true⟩, ofGrid (cellsOf .ksX1001))]
    shifts := true
    revised := false }]

end DeclarationFetch.Text.Charset
