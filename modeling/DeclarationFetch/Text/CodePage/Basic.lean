import DeclarationFetch.Text.Charset.Basic

/-!
# Code pages

Character sets of single bytes, most of which agree with ASCII below 0x80. A byte to which a code page
gives no character has the replacement character.
-/

namespace DeclarationFetch.Text

structure CodePage where
  names : List String
  /-- The characters of the bytes below 0x80, unless they are those of ASCII. -/
  lower : String := String.ofList ((List.range 0x80).map Char.ofNat)
  /-- The characters of the bytes from 0x80 on. -/
  upper : String
  deriving Repr, DecidableEq

namespace CodePage

def controls : String := String.ofList ((List.range 0x20).map fun n => Char.ofNat (0x80 + n))

def table (p : CodePage) : Array Char := (p.lower.toList ++ p.upper.toList).toArray

def charset (p : CodePage) : Charset :=
  .total p.names fun bytes =>
    let table := p.table
    bytes.map fun b => table.getD b replacement

end CodePage

end DeclarationFetch.Text
