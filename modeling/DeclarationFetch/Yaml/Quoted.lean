import DeclarationFetch.Text.Hexadecimal
import DeclarationFetch.Yaml.Cursor

/-!
# Quoted scalars

Between single quotes a quote is written twice, and nothing else is special. Between double quotes a
backslash starts an escape. Both may run over lines, and the blanks around a line break do not count.
-/

namespace DeclarationFetch.Yaml.Quoted

/-! ## Line breaks -/

/-- The breaks of empty lines. No document mark may stand inside a scalar. -/
def emptyLines : Nat → Cursor → Except Fault (List Char × Cursor)
  | 0, _ => .error .malformed
  | fuel + 1, k =>
      if k.atDocumentMark then .error .malformed
      else
        let k := (k.run isBlank).2
        match k.peek with
        | none => .ok ([], k)
        | some c =>
            if isBreak c then do
              let (more, after) ← emptyLines fuel k.next
              .ok (breakChar c :: more, after)
            else .ok ([], k)

def gap (k : Cursor) : Except Fault (List Char × Cursor) :=
  let (blanks, after) := k.run isBlank
  match after.peek with
  | none => .error .malformed
  | some c =>
      if isBreak c then do
        let (more, after) ← emptyLines (after.rest.length + 1) after.next
        .ok (folded c more, after)
      else .ok (blanks, after)

/-! ## Escapes -/

def escapes : List (Char × Char) := [
  ('0', '\x00'), ('a', '\x07'), ('b', '\x08'), ('t', '\t'), ('\t', '\t'), ('n', '\n'), ('v', '\x0b'),
  ('f', '\x0c'), ('r', '\r'), ('e', '\x1b'), (' ', ' '), ('"', '"'), ('\\', '\\'), ('/', '/'),
  ('N', '\x85'), ('_', '\u00a0'), ('L', '\u2028'), ('P', '\u2029')]

/-- How many digits an escape by code point has. -/
def digitCount? (c : Char) : Option Nat :=
  match c with
  | 'x' => some 2
  | 'u' => some 4
  | 'U' => some 8
  | _ => none

def ofCode (code : Nat) : Except Fault Char :=
  if 0x80000000 ≤ code then .error .outOfRange
  else if 0x110000 ≤ code then .error .impossible
  else if 0xD800 ≤ code ∧ code < 0xE000 then .ok '\uFFFD'
  else .ok (Char.ofNat code)

/-- What an escape stands for, the cursor being after its backslash. -/
def escape (k : Cursor) : Except Fault (List Char × Cursor) :=
  match k.peek with
  | none => .error .malformed
  | some c =>
      match escapes.lookup c, digitCount? c with
      | some char, _ => .ok ([char], k.next)
      | none, some count =>
          let digits := k.next.rest.take count
          match Text.hexNumber? digits with
          | some code =>
              if digits.length < count then .error .malformed
              else do .ok ([← ofCode code], k.skip (count + 1))
          | none => .error .malformed
      | none, none => if isBreak c then emptyLines k.rest.length k.next else .error .malformed

/-! ## Scalars -/

/-- The rest of a scalar after the characters that are done, the latest of them first. -/
def more (double : Bool) : Nat → List Char → Cursor → Except Fault (String × Cursor)
  | 0, _, _ => .error .malformed
  | fuel + 1, done, k =>
      match k.rest with
      | [] => .error .malformed
      | c :: rest =>
          if isBlank c || isBreak c then do
            let (chars, after) ← gap k
            more double fuel (chars.reverse ++ done) after
          else if double && c = '\\' then do
            let (chars, after) ← escape k.next
            more double fuel (chars.reverse ++ done) after
          else if double && c = '"' then .ok (String.ofList done.reverse, k.next)
          else if !double && c = '\'' then
            if rest.head? = some '\'' then more double fuel (c :: done) (k.skip 2)
            else .ok (String.ofList done.reverse, k.next)
          else more double fuel (c :: done) k.next

def scan (k : Cursor) : Except Fault (String × Cursor) :=
  more (k.peek = some '"') (k.rest.length + 1) [] k.next

end DeclarationFetch.Yaml.Quoted
