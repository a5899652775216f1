/-!
# UTF-8

The characters that a list of bytes stands for. Where the bytes stand for none, the longest start of a
well-formed sequence, or else one byte, counts as one invalid part.
-/

namespace DeclarationFetch.Text.Utf8

/-- What the first byte of a longer sequence says: its payload, the number of bytes after it, and the
range of the next one. -/
def lead? (b : Nat) : Option (Nat × Nat × Nat × Nat) :=
  if 0xC2 ≤ b ∧ b ≤ 0xDF then some (b - 0xC0, 1, 0x80, 0xBF)
  else if b = 0xE0 then some (0, 2, 0xA0, 0xBF)
  else if b = 0xED then some (0xD, 2, 0x80, 0x9F)
  else if 0xE1 ≤ b ∧ b ≤ 0xEF then some (b - 0xE0, 2, 0x80, 0xBF)
  else if b = 0xF0 then some (0, 3, 0x90, 0xBF)
  else if 0xF1 ≤ b ∧ b ≤ 0xF3 then some (b - 0xF0, 3, 0x80, 0xBF)
  else if b = 0xF4 then some (4, 3, 0x80, 0x8F)
  else none

/-- The code point of a sequence of which `used` bytes are read and some are missing, and the number of
bytes that belong to it; no code point if it breaks off. -/
def finish (code used : Nat) : Nat → Nat → Nat → List Nat → Option Nat × Nat
  | 0, _, _, _ => (some code, used)
  | _ + 1, _, _, [] => (none, used)
  | missing + 1, low, high, b :: rest =>
      if low ≤ b ∧ b ≤ high then finish (code * 64 + b % 64) (used + 1) missing 0x80 0xBF rest
      else (none, used)

/-- The first character or invalid part, and the number of its bytes. -/
def next (b : Nat) (rest : List Nat) : Option Nat × Nat :=
  if b < 0x80 then (some b, 1)
  else match lead? b with
    | some (payload, missing, low, high) => finish payload 1 missing low high rest
    | none => (none, 1)

/-- The parts of a list of bytes, `skip` counting what is left of the last one. -/
def partsFrom : Nat → List Nat → List (Option Nat)
  | _, [] => []
  | skip + 1, _ :: rest => partsFrom skip rest
  | 0, b :: rest =>
      let (code, used) := next b rest
      code :: partsFrom (used - 1) rest

def parts (bytes : List UInt8) : List (Option Nat) := partsFrom 0 (bytes.map UInt8.toNat)

def decode? (bytes : List UInt8) : Option String :=
  ((parts bytes).mapM id).map fun codes => String.ofList (codes.map Char.ofNat)

/-- The text of any bytes, with a replacement character for each invalid part. -/
def decodeLossy (bytes : List UInt8) : String :=
  String.ofList ((parts bytes).map fun code => Char.ofNat (code.getD 0xFFFD))

def encode (s : String) : List UInt8 := s.toUTF8.toList

end DeclarationFetch.Text.Utf8
