import DeclarationFetch.Text.Hexadecimal
import DeclarationFetch.Text.Printable

/-!
# Quoted texts

A text between quotes, as it appears inside messages: single quotes, unless the text holds a single
quote and no double quote. The quote in use and the backslash are escaped, and characters that are not
shown are written by their code points.
-/

namespace DeclarationFetch.Text

def escapeIn (quote c : Char) : List Char :=
  if c = quote ∨ c = '\\' then ['\\', c]
  else if c = '\n' then ['\\', 'n']
  else if c = '\r' then ['\\', 'r']
  else if c = '\t' then ['\\', 't']
  else if isPrintable c then [c]
  else if c.toNat < 0x100 then '\\' :: 'x' :: hex 2 c.toNat
  else if c.toNat < 0x10000 then '\\' :: 'u' :: hex 4 c.toNat
  else '\\' :: 'U' :: hex 8 c.toNat

def quoteFor (text : List Char) : Char :=
  if text.contains '\'' && !text.contains '"' then '"' else '\''

def quoted (text : String) : String :=
  let quote := quoteFor text.toList
  String.ofList (quote :: text.toList.flatMap (escapeIn quote) ++ [quote])

end DeclarationFetch.Text
