import DeclarationFetch.Text.Charset.Basic
import DeclarationFetch.Text.Utf8

/-!
# Character sets of Unicode

Ways to write all characters: in units of eight, sixteen or thirty-two bits, the order of whose bytes is
named or told by a mark at the start, and in seven bits, where runs of other characters stand in base 64
between a plus and a minus.
-/

namespace DeclarationFetch.Text.Charset

/-! ## Eight bits -/

def utf8 : Charset :=
  ⟨["utf_8", "cp65001", "u8", "utf", "utf8", "utf8_ucs2", "utf8_ucs4"], fun bytes =>
    .ok (Utf8.decodeLossy bytes)⟩

def signature : List UInt8 := [0xEF, 0xBB, 0xBF]

/-- A signature in front is dropped, also one that breaks off. -/
def utf8Signed : Charset :=
  ⟨["utf_8_sig"], fun bytes =>
    .ok <|
      if bytes.isPrefixOf signature then ""
      else Utf8.decodeLossy (if signature.isPrefixOf bytes then bytes.drop 3 else bytes)⟩

/-! ## Sixteen bits -/

/-- Units of two bytes; a byte that is left over is no unit. -/
def units (big : Bool) : List Nat → List (Option Nat)
  | a :: b :: rest => some (if big then a * 256 + b else b * 256 + a) :: units big rest
  | [_] => [none]
  | [] => []

def isHigh (unit : Nat) : Bool := 0xD800 ≤ unit && unit < 0xDC00

def isLow (unit : Nat) : Bool := 0xDC00 ≤ unit && unit < 0xE000

def pairChar (high low : Nat) : Char :=
  Char.ofNat (0x10000 + (high - 0xD800) * 0x400 + (low - 0xDC00))

/-- The character of a unit that stands alone, where a surrogate is none. -/
def unitChar (unit : Nat) : Char :=
  if isHigh unit || isLow unit then replacement else Char.ofNat unit

/-- The characters of units. Two surrogates are one character, and a high surrogate and a byte that is left
over are replaced together. -/
def ofUnits : List (Option Nat) → List Char
  | some high :: some low :: rest =>
      if isHigh high && isLow low then pairChar high low :: ofUnits rest
      else unitChar high :: ofUnits (some low :: rest)
  | [some unit, none] => if isHigh unit then [replacement] else [unitChar unit, replacement]
  | some unit :: rest => unitChar unit :: ofUnits rest
  | none :: rest => replacement :: ofUnits rest
  | [] => []
termination_by units => units.length

/-- Characters of units whose order of bytes is told by a mark at the start; bytes that are no unit need
no mark. -/
def decode16 : List Nat → Except Unreadable (List Char)
  | 0xFE :: 0xFF :: rest => .ok (ofUnits (units true rest))
  | 0xFF :: 0xFE :: rest => .ok (ofUnits (units false rest))
  | _ :: _ :: _ => .error .undecided
  | bytes => .ok (bytes.map fun _ => replacement)

/-! ## Thirty-two bits -/

def codeChar (code : Nat) : Char := if code.isValidChar then Char.ofNat code else replacement

/-- Units of four bytes; bytes that are left over are replaced together. -/
def ofQuads (big : Bool) : List Nat → List Char
  | a :: b :: c :: d :: rest =>
      let code := if big then ((a * 256 + b) * 256 + c) * 256 + d else ((d * 256 + c) * 256 + b) * 256 + a
      codeChar code :: ofQuads big rest
  | [] => []
  | _ => [replacement]

def decode32 : List Nat → Except Unreadable (List Char)
  | 0x00 :: 0x00 :: 0xFE :: 0xFF :: rest => .ok (ofQuads true rest)
  | 0xFF :: 0xFE :: 0x00 :: 0x00 :: rest => .ok (ofQuads false rest)
  | _ :: _ :: _ :: _ :: _ => .error .undecided
  | bytes => .ok (ofQuads false bytes)

/-! ## Seven bits -/

def sextet? (b : Nat) : Option Nat :=
  if 0x41 ≤ b ∧ b ≤ 0x5A then some (b - 0x41)
  else if 0x61 ≤ b ∧ b ≤ 0x7A then some (b - 0x61 + 26)
  else if 0x30 ≤ b ∧ b ≤ 0x39 then some (b - 0x30 + 52)
  else if b = 0x2B then some 62
  else if b = 0x2F then some 63
  else none

/-- What is read of a run in base 64: bits that are no unit yet, and a high surrogate. -/
structure Run where
  bits : Nat := 0
  value : Nat := 0
  high : Option Nat := none
  deriving Repr, DecidableEq

namespace Run

/-- Takes a unit, and gives the characters that are complete. -/
def takeUnit (r : Run) (unit : Nat) : Run × List Char :=
  match r.high with
  | some high =>
      if isLow unit then ({ r with high := none }, [pairChar high unit])
      else if isHigh unit then ({ r with high := some unit }, [replacement])
      else ({ r with high := none }, [replacement, unitChar unit])
  | none => if isHigh unit then ({ r with high := some unit }, []) else (r, [unitChar unit])

def take (r : Run) (sextet : Nat) : Run × List Char :=
  let value := r.value * 64 + sextet
  let bits := r.bits + 6
  if 16 ≤ bits then
    let scale := Nat.pow 2 (bits - 16)
    ({ r with bits := bits - 16, value := value % scale }).takeUnit (value / scale)
  else ({ r with bits, value }, [])

/-- Whether the bits that are left over are part of a character. -/
def isTorn (r : Run) : Bool := 6 ≤ r.bits || r.value ≠ 0

end Run

/-- Reads on, in a run or outside of one. A byte that ends a run of which a part is left over belongs to
what is replaced. -/
def decode7 : Option Run → List Nat → List Char
  | none, [] => []
  | some run, [] => if run.isTorn || run.high.isSome then [replacement] else []
  | none, 0x2B :: 0x2D :: rest => '+' :: decode7 none rest
  | none, 0x2B :: b :: rest =>
      if (sextet? b).isSome then decode7 (some {}) (b :: rest) else replacement :: decode7 none rest
  | none, b :: rest =>
      if b = 0x2B then decode7 (some {}) rest
      else (if b < 0x80 then Char.ofNat b else replacement) :: decode7 none rest
  | some run, b :: rest =>
      match sextet? b with
      | some sextet =>
          let (run, cs) := run.take sextet
          cs ++ decode7 (some run) rest
      | none =>
          if run.isTorn then replacement :: decode7 none rest
          else
            let lone := if run.high.isSome && b < 0x80 then [replacement] else []
            let own := if b = 0x2D then [] else [if b < 0x80 then Char.ofNat b else replacement]
            lone ++ own ++ decode7 none rest
termination_by _ bytes => bytes.length

/-- A character set that a mark at the start may decide. -/
def byMark (names : List String) (decode : List Nat → Except Unreadable (List Char)) : Charset :=
  ⟨names, fun bytes => (decode (bytes.map UInt8.toNat)).map String.ofList⟩

def unicode : List Charset := [utf8, utf8Signed,
  byMark ["utf_16", "u16", "utf16"] decode16,
  .total ["utf_16_le", "unicodelittleunmarked", "utf_16le"] fun bytes => ofUnits (units false bytes),
  .total ["utf_16_be", "unicodebigunmarked", "utf_16be"] fun bytes => ofUnits (units true bytes),
  byMark ["utf_32", "u32", "utf32"] decode32,
  .total ["utf_32_le", "utf_32le"] (ofQuads false),
  .total ["utf_32_be", "utf_32be"] (ofQuads true),
  .total ["utf_7", "u7", "unicode_1_1_utf_7", "utf7"] (decode7 none)]

end DeclarationFetch.Text.Charset
