import DeclarationFetch.Text.Charset.Basic
import DeclarationFetch.Text.Hexadecimal
import DeclarationFetch.Text.Punycode

/-!
# Escaped texts

Character sets in which sequences of ASCII stand for other characters, and names beside those of
character sets, under which no bytes are read as text.
-/

namespace DeclarationFetch.Text.Charset

/-! ## Backslashes -/

/-- The number of so many hexadecimal digits. Where one is missing, the bytes up to there are none. -/
def hexReading : Nat → Nat → Nat → List Nat → Reading
  | 0, n, width, _ => if n.isValidChar then .char (Char.ofNat n) width else .wrong width
  | _ + 1, _, _, [] => .short
  | left + 1, n, width, b :: rest =>
      match hexValue? (Char.ofNat b) with
      | some d => hexReading left (n * 16 + d) (width + 1) rest
      | none => .wrong width

def octalReading (bytes : List Nat) : Reading :=
  let digits := (bytes.take 3).takeWhile fun b => 0x30 ≤ b && b ≤ 0x37
  .char (Char.ofNat (digits.foldl (fun n b => n * 8 + (b - 0x30)) 0)) (digits.length + 1)

def namedEscapes : List (Char × Nat) :=
  [('\\', 0x5C), ('\'', 0x27), ('"', 0x22), ('b', 8), ('f', 12), ('t', 9), ('n', 10), ('r', 13), ('v', 11),
    ('a', 7)]

/-- A character by its name between braces; no name is known. -/
def nameReading (bytes : List Nat) : Reading :=
  match bytes with
  | [] => .short
  | 0x7B :: rest =>
      match rest.span (· ≠ 0x7D) with
      | (_, []) => .short
      | ([], _) => .wrong 3
      | (name, _) => .wrong (name.length + 4)
  | _ => .wrong 2

def escapeReading : List Nat → Reading
  | [] => .short
  | b :: rest =>
      let c := Char.ofNat b
      if c = '\n' then .chars [] 2
      else match namedEscapes.lookup c with
        | some code => .char (Char.ofNat code) 2
        | none =>
            if '0' ≤ c ∧ c ≤ '7' then octalReading (b :: rest)
            else if c = 'x' then hexReading 2 0 2 rest
            else if c = 'u' then hexReading 4 0 2 rest
            else if c = 'U' then hexReading 8 0 2 rest
            else if c = 'N' then nameReading rest
            else .chars ['\\', c] 2

def readEscaped : List Nat → Reading
  | [] => .short
  | b :: rest => if b = 0x5C then escapeReading rest else .char (Char.ofNat b) 1

/-- Only code points are escaped. -/
def readCodes : List Nat → Reading
  | [] => .short
  | b :: rest =>
      if b = 0x5C then
        match rest with
        | 0x75 :: digits => hexReading 4 0 2 digits
        | 0x55 :: digits => hexReading 8 0 2 digits
        | c :: _ => .chars ['\\', Char.ofNat c] 2
        | [] => .char '\\' 1
      else .char (Char.ofNat b) 1

/-! ## Punycode -/

/-- The part after the last hyphen has to be ASCII. -/
def decodePunycode (bytes : List UInt8) : Except Unreadable String :=
  let cs := bytes.map fun b => if b < 0x80 then Char.ofNat b.toNat else replacement
  if (cs.reverse.takeWhile (· ≠ '-')).contains replacement then .error .notAscii
  else .ok (String.ofList (Punycode.decode cs))

/-! ## No character sets -/

def never (names : List String) (reason : Unreadable) : Charset := ⟨names, fun _ => .error reason⟩

def escaped : List Charset := [
  .total ["unicode_escape"] (readAll readEscaped),
  .total ["raw_unicode_escape"] (readAll readCodes),
  ⟨["punycode"], decodePunycode⟩,
  never ["idna"] .undecided,
  never ["undefined"] .undecided,
  never ["rot_13", "rot13"] .noBytes,
  never ["hex_codec", "hex"] .noCharset,
  never ["base64_codec", "base64", "base_64"] .noCharset,
  never ["uu_codec", "uu"] .noCharset,
  never ["quopri_codec", "quopri", "quoted_printable", "quotedprintable"] .noCharset,
  never ["zlib_codec", "zip", "zlib"] .noCharset,
  never ["bz2_codec", "bz2"] .noCharset]

end DeclarationFetch.Text.Charset
