/-!
# Character sets

A character set reads bytes as text. Bytes that are no character are replaced, so that a text is missing
only where the character set as a whole does not apply.
-/

namespace DeclarationFetch.Text

def replacement : Char := Char.ofNat 0xFFFD

inductive Unreadable where
  /-- The mark that tells the order of bytes is missing, or no bytes at all are a text. -/
  | undecided
  /-- Bytes outside ASCII where ASCII alone is allowed. -/
  | notAscii
  /-- What the name stands for gives bytes and no text. -/
  | noCharset
  /-- What the name stands for takes texts and no bytes. -/
  | noBytes
  /-- The pieces of the name are not all numbered. -/
  | unnumbered
  | nul
  deriving Repr, DecidableEq

structure Charset where
  /-- The name itself and then the other ones. -/
  names : List String
  decode : List UInt8 → Except Unreadable String

namespace Charset

def total (names : List String) (decode : List Nat → List Char) : Charset :=
  ⟨names, fun bytes => .ok (String.ofList (decode (bytes.map UInt8.toNat)))⟩

/-- The characters of bytes that each stand for themselves. -/
def plain (bytes : List Nat) : List Char := bytes.map Char.ofNat

inductive Reading where
  | chars (cs : List Char) (width : Nat)
  /-- So many bytes are no character. -/
  | wrong (width : Nat)
  /-- The bytes break off. -/
  | short
  deriving Repr, DecidableEq

namespace Reading

def char (c : Char) (width : Nat) : Reading := .chars [c] width

/-- A character that need not be there, and then one byte is none. -/
def ofChar? (c : Option Char) (width : Nat) : Reading :=
  match c with
  | some c => .chars [c] width
  | none => .wrong 1

end Reading

/-- Reads on from a state to the end of the bytes. A reading takes a byte at least, so there are no more
readings than bytes. -/
def readOn {σ : Type} (read : σ → List Nat → σ × Reading) :
    Nat → σ → List Char → List Nat → List Char
  | 0, _, out, _ => out.reverse
  | _, _, out, [] => out.reverse
  | left + 1, s, out, bytes =>
      match read s bytes with
      | (s, .chars cs width) => readOn read left s (cs.reverse ++ out) (bytes.drop width)
      | (s, .wrong width) => readOn read left s (replacement :: out) (bytes.drop width)
      | (_, .short) => (replacement :: out).reverse

def readFrom {σ : Type} (read : σ → List Nat → σ × Reading) (start : σ) (bytes : List Nat) :
    List Char :=
  readOn read bytes.length start [] bytes

def readAll (read : List Nat → Reading) (bytes : List Nat) : List Char :=
  readFrom (fun _ bytes => ((), read bytes)) () bytes

def afterAscii (read : List Nat → Reading) : List Nat → Reading
  | b :: rest => if b < 0x80 then .char (Char.ofNat b) 1 else read (b :: rest)
  | [] => .short

end Charset

end DeclarationFetch.Text
