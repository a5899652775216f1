import DeclarationFetch.Decimal.Reading
import DeclarationFetch.Text.Hexadecimal
import DeclarationFetch.Text.Utf8
import DeclarationFetch.Yaml.Token

/-!
# Properties and directives

Anchors and tags, which stand before a node, and the lines before a document that start with a percent
sign.
-/

namespace DeclarationFetch.Yaml.Property

def isNameChar (c : Char) : Bool := c.isAlphanum || c = '-' || c = '_'

/-! ## Anchors -/

def endsAnchor (next : Option Char) : Bool :=
  endsWord next || next.any fun c => ['?', ':', ',', ']', '\x7d', '%', '@', '\x60'].contains c

def name (k : Cursor) : Except Fault (String × Cursor) :=
  let (found, after) := k.next.run isNameChar
  if found.isEmpty || !endsAnchor after.peek then .error .malformed
  else .ok (String.ofList found, after)

/-! ## Tags -/

def isUriChar (c : Char) : Bool :=
  c.isAlphanum || "-;/?:@&=+$,_.!~*'()[]%".toList.contains c

/-- The bytes of a part of an address, in which a percent sign and two digits stand for one byte. -/
def uriBytes : List Char → Except Fault (List UInt8)
  | [] => .ok []
  | '%' :: a :: b :: rest => do
      match Text.hexNumber? [a, b] with
      | some n => .ok (UInt8.ofNat n :: (← uriBytes rest))
      | none => .error .malformed
  | c :: rest => do
      if c = '%' then .error .malformed
      else .ok (Text.Utf8.encode (String.ofList [c]) ++ (← uriBytes rest))

def uri (k : Cursor) : Except Fault (String × Cursor) := do
  let (found, after) := k.run isUriChar
  if found.isEmpty then .error .malformed
  else match Text.Utf8.decode? (← uriBytes found) with
    | some s => .ok (s, after)
    | none => .error .malformed

/-- A handle is `!` alone, or a name between two of them. -/
def handle (k : Cursor) : Except Fault (TagHandle × Cursor) :=
  if k.peek ≠ some '!' then .error .malformed
  else if k.next.peek = some ' ' then .ok ("!", k.next)
  else
    let (found, after) := k.next.run isNameChar
    if after.peek = some '!' then .ok (String.ofList ('!' :: found ++ ['!']), after.next)
    else .error .malformed

/-- Whether a second `!` stands in the word after the first. -/
def hasHandle (k : Cursor) : Bool := ((k.next.run fun c => !endsProperty (some c)).1).contains '!'

def verbatim (k : Cursor) : Except Fault (Token × Cursor) := do
  let (suffix, after) ← uri (k.skip 2)
  if after.peek = some '>' then .ok (.tag none suffix, after.next) else .error .malformed

def shorthand (k : Cursor) : Except Fault (Token × Cursor) := do
  let (lead, k) ← if hasHandle k then handle k else .ok ("!", k.next)
  let (suffix, after) ← uri k
  .ok (.tag (some lead) suffix, after)

def tag (k : Cursor) : Except Fault (Token × Cursor) := do
  let (found, after) ←
    if k.next.peek = some '<' then verbatim k
    else if endsWord k.next.peek then .ok (.tag none "!", k.next)
    else shorthand k
  if endsProperty after.peek then .ok (found, after) else .error .malformed

/-! ## Directives -/

def number (k : Cursor) : Except Fault (Nat × Cursor) :=
  let (digits, after) := k.run Char.isDigit
  if digits.isEmpty then .error .malformed
  else if Decimal.mostIntegerDigits < digits.length then .error .impossible
  else .ok (digits.foldl (fun n c => n * 10 + (c.toNat - 48)) 0, after)

def version (k : Cursor) : Except Fault (Directive × Cursor) := do
  let (major, k) ← number k.skipSpaces
  if k.peek ≠ some '.' then .error .malformed
  else
    let (_, k) ← number k.next
    if endsProperty k.peek then .ok (.version major, k) else .error .malformed

def tags (k : Cursor) : Except Fault (Directive × Cursor) := do
  let (lead, k) ← handle k.skipSpaces
  if k.peek ≠ some ' ' then .error .malformed
  else
    let (text, k) ← uri k.skipSpaces
    if endsProperty k.peek then .ok (.tags lead text, k) else .error .malformed

def directive (k : Cursor) : Except Fault (Token × Cursor) := do
  let (found, k) := k.next.run isNameChar
  if found.isEmpty || !endsProperty k.peek then .error .malformed
  else
    let (d, k) ←
      match String.ofList found with
      | "YAML" => version k
      | "TAG" => tags k
      | _ => .ok (.other, k.skipLine)
    .ok (.directive d, ← k.finishLine)

end DeclarationFetch.Yaml.Property
