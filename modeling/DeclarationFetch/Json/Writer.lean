import DeclarationFetch.Value.Display

/-!
# Writing JSON

One line of ASCII per value: a blank after each comma and colon, members in their order, and every
character outside the printable ASCII range as an escape, those beyond the first plane as a pair.
-/

namespace DeclarationFetch.Json

def unitEscape (unit : Nat) : List Char := '\\' :: 'u' :: Text.hex 4 unit

def escapeChar (c : Char) : List Char :=
  match c with
  | '"' => ['\\', '"']
  | '\\' => ['\\', '\\']
  | '\n' => ['\\', 'n']
  | '\r' => ['\\', 'r']
  | '\t' => ['\\', 't']
  | '\x08' => ['\\', 'b']
  | '\x0c' => ['\\', 'f']
  | _ =>
      let n := c.toNat
      if 0x20 ≤ n ∧ n < 0x7f then [c]
      else if n < 0x10000 then unitEscape n
      else
        unitEscape (0xD800 + (n - 0x10000) / 0x400) ++ unitEscape (0xDC00 + (n - 0x10000) % 0x400)

def writeText (s : String) : String :=
  String.ofList ('"' :: s.toList.flatMap escapeChar ++ ['"'])

def writeFloat (x : Double) : String :=
  match x with
  | .nan _ => "NaN"
  | .infinite negative => if negative then "-Infinity" else "Infinity"
  | _ => Value.floatText .message x

mutual
def write : Value → String
  | .null => "null"
  | .bool b => if b then "true" else "false"
  | .int n => toString n
  | .float x => writeFloat x
  | .text s => writeText s
  | .bytes b => writeText (Value.bytesText b)
  | .date d => writeText d.text
  | .moment m => writeText m.text
  | .list items => "[" ++ ", ".intercalate (writeItems items) ++ "]"
  | .set items => "[" ++ ", ".intercalate (writeItems items) ++ "]"
  | .map entries => "\x7b" ++ ", ".intercalate (writeMembers entries) ++ "\x7d"

def writeItems : List Value → List String
  | [] => []
  | item :: rest => write item :: writeItems rest

def writeMembers : List (Value × Value) → List String
  | [] => []
  | (key, value) :: rest =>
      (writeText (Value.display key) ++ ": " ++ write value) :: writeMembers rest
end

end DeclarationFetch.Json
