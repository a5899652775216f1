import DeclarationFetch.Text.Hexadecimal
import DeclarationFetch.Text.Utf8

/-!
# Percent signs in URLs

A character that a part of a URL does not take is written byte by byte, each byte as a percent sign and
two digits. Percent signs themselves are kept everywhere, so what is written once is not written again.
-/

namespace DeclarationFetch.Url

def percent (b : UInt8) : List Char := '%' :: (Text.hex 2 b.toNat).map Char.toUpper

def encodeWhere (keeps : Char → Bool) (cs : List Char) : List Char :=
  cs.flatMap fun c => if keeps c then [c] else (Text.Utf8.encode c.toString).flatMap percent

def unpercent : List Char → List UInt8
  | '%' :: a :: b :: rest =>
      match Text.hexValue? a, Text.hexValue? b with
      | some high, some low => (high * 16 + low).toUInt8 :: unpercent rest
      | _, _ => '%'.toNat.toUInt8 :: unpercent (a :: b :: rest)
  | c :: rest => Text.Utf8.encode c.toString ++ unpercent rest
  | [] => []
termination_by cs => cs.length

def decode (cs : List Char) : List Char := (Text.Utf8.decodeLossy (unpercent cs)).toList

/-! ## What the parts take -/

def isVisible (c : Char) : Bool := 0x20 < c.toNat && c.toNat < 0x7F

def isOneOf (cs : List Char) (c : Char) : Bool := cs.contains c

def inFragment (c : Char) : Bool := isVisible c && !isOneOf ['"', '<', '>', Char.ofNat 0x60] c

def inQuery (c : Char) : Bool := isVisible c && !isOneOf ['"', '#', '<', '>'] c

def inPath (c : Char) : Bool := inQuery c && inFragment c && !isOneOf ['?', '\x7b', '\x7d'] c

def inUser (c : Char) : Bool :=
  inPath c && !isOneOf ['/', ';', '=', '@', '[', '\\', ']', '^', '|'] c

def inHost (c : Char) : Bool :=
  isVisible c && !isOneOf ['#', '/', ':', '<', '>', '?', '@', '[', ']', '^'] c

end DeclarationFetch.Url
