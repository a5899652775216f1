/-!
# Places in a YAML text

A cursor is what is left of a text, with its offset, line and column. Line feed, next line, line
separator and paragraph separator break lines; a byte order mark takes no column. Where reading cannot go on,
a fault says why the text has no value.
-/

namespace DeclarationFetch.Yaml

/-! ## Faults -/

inductive Fault where
  /-- The text is not YAML, or holds what no settings are made of. -/
  | malformed
  /-- A scalar has the form of a number or a moment, or a character is given by its number, but there is
  none such. -/
  | impossible
  /-- A number is too large for the place where it stands. -/
  | outOfRange
  /-- What is marked as a truth value is no word for one. -/
  | noTruthValue
  /-- What is marked as a number has no characters. -/
  | noCharacters
  /-- What is marked as a moment does not have the form of one. -/
  | noMoment
  /-- What is marked as a moment is a mapping. -/
  | mappingAsMoment
  deriving Repr, DecidableEq

/-! ## Characters -/

def isBlank (c : Char) : Bool := c = ' ' || c = '\t'

def isBreak (c : Char) : Bool := c = '\n' || c = '\x85' || c = '\u2028' || c = '\u2029'

def isAllowed (c : Char) : Bool :=
  let n := c.toNat
  n = 0x09 || n = 0x0A || n = 0x0D || (0x20 ≤ n && n ≤ 0x7E) || n = 0x85 ||
    (0xA0 ≤ n && n ≤ 0xD7FF) || (0xE000 ≤ n && n ≤ 0xFFFD) || 0x10000 ≤ n

def endsLine (next : Option Char) : Bool := next.all isBreak

def endsProperty (next : Option Char) : Bool := next = some ' ' || endsLine next

def endsWord (next : Option Char) : Bool := next = some '\t' || endsProperty next

/-- How a line break counts in the text of a scalar. -/
def breakChar (c : Char) : Char := if c = '\u2028' ∨ c = '\u2029' then c else '\n'

/-- What a line break stands for inside a scalar that runs over lines, `more` being the breaks of the
empty lines after it: one line feed alone is a space, and further ones stand for themselves. -/
def folded (c : Char) (more : List Char) : List Char :=
  if breakChar c ≠ '\n' then breakChar c :: more
  else if more.isEmpty then [' ']
  else more

structure Cursor where
  rest : List Char
  offset : Nat := 0
  line : Nat := 0
  column : Nat := 0

namespace Cursor

def peek (k : Cursor) : Option Char := k.rest.head?

def next (k : Cursor) : Cursor :=
  match k.rest with
  | [] => k
  | c :: rest =>
      if isBreak c then ⟨rest, k.offset + 1, k.line + 1, 0⟩
      else if c = '\uFEFF' then ⟨rest, k.offset + 1, k.line, k.column⟩
      else ⟨rest, k.offset + 1, k.line, k.column + 1⟩

def skip : Nat → Cursor → Cursor
  | 0, k => k
  | n + 1, k => skip n k.next

def run (k : Cursor) (p : Char → Bool) : List Char × Cursor :=
  let found := k.rest.takeWhile p
  (found, k.skip found.length)

def skipSpaces (k : Cursor) : Cursor := (k.run (· = ' ')).2

def skipLine (k : Cursor) : Cursor := (k.run fun c => !isBreak c).2

def skipComment (k : Cursor) : Cursor := if k.peek = some '#' then k.skipLine else k

def indentTo (k : Cursor) (column : Nat) : Cursor :=
  k.skip (min (k.rest.takeWhile (· = ' ')).length (column - k.column))

/-- Whether these three characters stand here as a word. -/
def atWord (k : Cursor) (word : List Char) : Bool :=
  word.isPrefixOf k.rest && endsWord (k.rest.drop 3).head?

/-- Three hyphens or three points, which part documents. -/
def atDocumentMark (k : Cursor) : Bool := k.atWord ['-', '-', '-'] || k.atWord ['.', '.', '.']

/-- Past spaces and a comment to the end of the line, where nothing else may stand. -/
def finishLine (k : Cursor) : Except Fault Cursor :=
  let k := k.skipSpaces.skipComment
  if endsLine k.peek then .ok k.next else .error .malformed

end Cursor

end DeclarationFetch.Yaml
