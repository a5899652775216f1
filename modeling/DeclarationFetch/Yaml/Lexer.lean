import DeclarationFetch.Yaml.Block
import DeclarationFetch.Yaml.Plain
import DeclarationFetch.Yaml.Property
import DeclarationFetch.Yaml.Quoted

/-!
# From texts to tokens

A text is cut into tokens from left to right.

* Outside flow collections the column of a token closes the block collections that are indented more,
  and the first token of a key or an entry opens one if it is indented more than those around it.
* That something is a key shows only at the colon after it. So the place of what may be a key is kept,
  and the tokens that mark it are put in there later. A key stands on one line, is at most 1024
  characters away from its colon, and outside flow collections starts where a key may start.
-/

namespace DeclarationFetch.Yaml

/-- Something that is a key if a colon follows. -/
structure PendingKey where
  /-- The number of tokens before it. -/
  place : Nat
  /-- Whether nothing but a key may stand there. -/
  required : Bool
  offset : Nat
  line : Nat
  column : Nat

structure Lexer where
  cursor : Cursor
  tokens : List Token := []
  /-- The columns of the open block collections, the innermost first. -/
  indents : List Nat := []
  /-- For each open flow collection the pending key outside of it, the innermost first. -/
  outer : List (Option PendingKey) := []
  pending : Option PendingKey := none
  keyAllowed : Bool := true

namespace Lexer

def inFlow (s : Lexer) : Bool := !s.outer.isEmpty

def emit (s : Lexer) (t : Token) : Lexer := { s with tokens := t :: s.tokens }

/-- A token before all but the first `place` ones. -/
def emitAt (s : Lexer) (place : Nat) (t : Token) : Lexer :=
  let later := s.tokens.length - place
  { s with tokens := s.tokens.take later ++ t :: s.tokens.drop later }

/-! ## Indentation -/

/-- Closes the block collections whose column satisfies the condition. -/
def close (s : Lexer) (p : Nat → Bool) : Lexer :=
  if s.inFlow then s
  else
    let closed := s.indents.takeWhile p
    { s with
      indents := s.indents.dropWhile p
      tokens := List.replicate closed.length .blockEnd ++ s.tokens }

/-- Opens a block collection at a column, if it is indented more than those around it. -/
def openBlock (s : Lexer) (column place : Nat) (t : Token) : Lexer :=
  if s.indents.head?.all (· < column) then { s.emitAt place t with indents := column :: s.indents }
  else s

/-! ## Pending keys -/

def isStale (k : Cursor) (key : PendingKey) : Bool :=
  key.line ≠ k.line || 1024 < k.offset - key.offset

/-- A pending key without the chance of a colon; nothing is left of it. -/
def giveUp (key : Option PendingKey) : Except Fault (Option PendingKey) :=
  if key.any (·.required) then .error .malformed else .ok none

def refresh (k : Cursor) (key : Option PendingKey) : Except Fault (Option PendingKey) :=
  if key.any (isStale k) then giveUp key else .ok key

def dropStale (s : Lexer) : Except Fault Lexer := do
  let outer ← s.outer.mapM (refresh s.cursor)
  let pending ← refresh s.cursor s.pending
  .ok { s with outer, pending }

def dropPending (s : Lexer) : Except Fault Lexer := do .ok { s with pending := ← giveUp s.pending }

/-- What starts here may be a key. -/
def mayBeKey (s : Lexer) : Except Fault Lexer := do
  if s.keyAllowed then
    let s ← s.dropPending
    let key : PendingKey := {
      place := s.tokens.length
      required := !s.inFlow && s.indents.head? == some s.cursor.column
      offset := s.cursor.offset
      line := s.cursor.line
      column := s.cursor.column }
    .ok { s with pending := some key }
  else .ok s

/-! ## Blanks and comments -/

/-- Past spaces, comments and line breaks; after a break a key may start. -/
def skipBlanks : Nat → Lexer → Lexer
  | 0, s => s
  | fuel + 1, s =>
      let k := s.cursor.skipSpaces.skipComment
      if k.peek.any isBreak then
        skipBlanks fuel { s with cursor := k.next, keyAllowed := s.keyAllowed || !s.inFlow }
      else { s with cursor := k }

def skipMark (s : Lexer) : Lexer :=
  if s.cursor.offset = 0 ∧ s.cursor.peek = some '\uFEFF' then { s with cursor := s.cursor.next } else s

/-! ## Tokens of one kind -/

def mark (s : Lexer) (n : Nat) (t : Token) : Lexer :=
  { s with cursor := s.cursor.skip n }.emit t

def documentPart (s : Lexer) (read : Cursor → Except Fault (Token × Cursor)) : Except Fault Lexer := do
  let s ← (s.close fun _ => true).dropPending
  let (t, after) ← read s.cursor
  .ok ({ s with cursor := after, keyAllowed := false }.emit t)

def openFlow (s : Lexer) (t : Token) : Except Fault Lexer := do
  let s ← s.mayBeKey
  .ok ({ s with outer := s.pending :: s.outer, pending := none, keyAllowed := true }.mark 1 t)

def closeFlow (s : Lexer) (t : Token) : Except Fault Lexer := do
  let s ← s.dropPending
  match s.outer with
  | [] => .error .malformed
  | key :: outer => .ok ({ s with outer, pending := key, keyAllowed := false }.mark 1 t)

def flowEntry (s : Lexer) : Except Fault Lexer := do
  let s ← s.dropPending
  .ok ({ s with keyAllowed := true }.mark 1 .flowEntry)

def blockEntry (s : Lexer) : Except Fault Lexer := do
  let opened ←
    if s.inFlow then .ok s
    else if s.keyAllowed then .ok (s.openBlock s.cursor.column s.tokens.length .blockSequence)
    else .error .malformed
  let s ← opened.dropPending
  .ok ({ s with keyAllowed := true }.mark 1 .blockEntry)

/-- A mark that starts a key or a value without a pending key. -/
def bareMark (s : Lexer) (t : Token) : Except Fault Lexer := do
  let opened ←
    if s.inFlow then .ok s
    else if s.keyAllowed then .ok (s.openBlock s.cursor.column s.tokens.length .blockMapping)
    else .error .malformed
  let s ← opened.dropPending
  .ok ({ s with keyAllowed := !s.inFlow }.mark 1 t)

def value (s : Lexer) : Except Fault Lexer :=
  match s.pending with
  | none => s.bareMark .value
  | some key =>
      let s := { s with pending := none, keyAllowed := false }.emitAt key.place .key
      let s := if s.inFlow then s else s.openBlock key.column key.place .blockMapping
      .ok (s.mark 1 .value)

/-- A property or a scalar that may be the start of a key. -/
def content (s : Lexer) (read : Cursor → Except Fault (Token × Cursor)) : Except Fault Lexer := do
  let s ← s.mayBeKey
  let (t, after) ← read s.cursor
  .ok ({ s with cursor := after, keyAllowed := false }.emit t)

def plain (s : Lexer) : Except Fault Lexer := do
  let s ← s.mayBeKey
  let found := Plain.scan s.inFlow (s.indents.head?.elim 0 (· + 1)) s.cursor
  .ok ({ s with cursor := found.cursor, keyAllowed := found.crossed }.emit
    (.scalar true (String.ofList found.chars)))

def block (s : Lexer) : Except Fault Lexer := do
  let s ← s.dropPending
  let (text, after) ← Block.scan s.indents.head? s.cursor
  .ok ({ s with cursor := after, keyAllowed := true }.emit (.scalar false text))

/-! ## All tokens -/

/-- Marks that no plain scalar starts with. -/
def startsNoPlain (c : Char) : Bool := "-?:,[]\x7b\x7d#&*!|>\x27\x22%@\x60".toList.contains c

def startsPlain (inFlow : Bool) (c : Char) (after : Option Char) : Bool :=
  !(isBlank c || isBreak c || startsNoPlain c) ||
    (!endsWord after && (c = '-' || (!inFlow && (c = '?' || c = ':'))))

/-- One token; blanks are skipped already. -/
def step (s : Lexer) (c : Char) : Except Fault Lexer :=
  let k := s.cursor
  let after := k.next.peek
  if k.column = 0 ∧ c = '%' then s.documentPart Property.directive
  else if k.column = 0 ∧ k.atWord ['-', '-', '-'] then
    s.documentPart fun k => .ok (.documentStart, k.skip 3)
  else if k.column = 0 ∧ k.atWord ['.', '.', '.'] then
    s.documentPart fun k => .ok (.documentEnd, k.skip 3)
  else if c = '[' then s.openFlow .flowSequence
  else if c = '\x7b' then s.openFlow .flowMapping
  else if c = ']' then s.closeFlow .flowSequenceEnd
  else if c = '\x7d' then s.closeFlow .flowMappingEnd
  else if c = ',' then s.flowEntry
  else if c = '-' ∧ endsWord after then s.blockEntry
  else if c = '?' ∧ (s.inFlow ∨ endsWord after) then s.bareMark .key
  else if c = ':' ∧ (s.inFlow ∨ endsWord after) then s.value
  else if c = '*' then
    s.content fun k => (Property.name k).map fun (name, after) => (.reference name, after)
  else if c = '&' then s.content fun k => (Property.name k).map fun (name, after) => (.anchor name, after)
  else if c = '!' then s.content Property.tag
  else if (c = '|' ∨ c = '>') ∧ !s.inFlow then s.block
  else if c = '\x27' ∨ c = '\x22' then
    s.content fun k => (Quoted.scan k).map fun (text, after) => (.scalar false text, after)
  else if startsPlain s.inFlow c after then s.plain
  else .error .malformed

/-- One more token, or the end of the text. The number is greater than that of the characters left. -/
def advance (fuel : Nat) (s : Lexer) : Except Fault (Lexer × Bool) := do
  let s ← (skipBlanks fuel s.skipMark).dropStale
  let s := s.close fun column => s.cursor.column < column
  match s.cursor.peek with
  | some c => return (← s.step c, false)
  | none => return (← (s.close fun _ => true).dropPending, true)

/-- The tokens that are certain, before any more text is looked at: those before the first one that may
still turn out to be a key. -/
def certain (s : Lexer) : List Token :=
  match s.dropStale with
  | .error _ => s.tokens.reverse
  | .ok fresh =>
      let places := (fresh.pending :: fresh.outer).filterMap fun key => key.map (·.place)
      s.tokens.reverse.take (places.foldl min s.tokens.length)

/-- The tokens of the rest of the text, each of which has at least one character. -/
def run : Nat → Lexer → Scan
  | 0, s => ⟨s.certain, some .malformed⟩
  | fuel + 1, s =>
      match s.advance (fuel + 1) with
      | .error fault => ⟨s.certain, some fault⟩
      | .ok (s, false) => run fuel s
      | .ok (s, true) => ⟨s.tokens.reverse, none⟩

end Lexer

/-- The tokens of a text. Where the text has a fault, only those before it come out that are certain
without a look at it. -/
def Token.ofText (cs : List Char) : Scan := Lexer.run (cs.length + 1) { cursor := ⟨cs, 0, 0, 0⟩ }

end DeclarationFetch.Yaml
