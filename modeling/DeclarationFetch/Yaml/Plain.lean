import DeclarationFetch.Yaml.Cursor

/-!
# Plain scalars

A scalar without quotes ends before `: ` and before a comment, and inside a flow collection also before
the marks of the collection. It may run over lines that are indented more than the collection around it.
-/

namespace DeclarationFetch.Yaml

structure Plain where
  chars : List Char
  /-- Whether the cursor is on a later line than the last character. -/
  crossed : Bool
  cursor : Cursor

namespace Plain

def isFlowMark (c : Char) : Bool := c = ',' || c = '[' || c = ']' || c = '\x7b' || c = '\x7d'

/-- Whether a colon before this character is one that follows a key. -/
def endsKey (inFlow : Bool) (next : Option Char) : Bool :=
  endsWord next || (inFlow && next.any isFlowMark)

/-- The characters up to the next blank or the end of the scalar. -/
def word (inFlow : Bool) : List Char → List Char
  | [] => []
  | c :: rest =>
      if isBlank c || isBreak c || (c = ':' && endsKey inFlow rest.head?) ||
          (inFlow && (isFlowMark c || c = '?')) then []
      else c :: word inFlow rest

/-! ## Between words -/

/-- The breaks of empty lines; `none` if a document mark comes after them. -/
def emptyLines : Nat → Cursor → Option (List Char) × Cursor
  | 0, k => (some [], k)
  | fuel + 1, k =>
      let k := k.skipSpaces
      match k.peek with
      | none => (some [], k)
      | some c =>
          if !isBreak c then (some [], k)
          else if k.next.atDocumentMark then (none, k.next)
          else
            let (more, after) := emptyLines fuel k.next
            (more.map (breakChar c :: ·), after)

/-- What stands between two words. Where nothing does, the scalar is at its end. -/
def gap (k : Cursor) : Plain :=
  let (spaces, after) := k.run (· = ' ')
  match after.peek with
  | none => ⟨spaces, false, after⟩
  | some c =>
      if !isBreak c then ⟨spaces, false, after⟩
      else if after.next.atDocumentMark then ⟨[], true, after.next⟩
      else
        match emptyLines after.rest.length after.next with
        | (some more, after) => ⟨folded c more, true, after⟩
        | (none, after) => ⟨[], true, after⟩

/-! ## Scalars -/

def isLast (inFlow : Bool) (indent : Nat) (g : Plain) : Bool :=
  g.chars.isEmpty || g.cursor.peek = some '#' || (!inFlow && g.cursor.column < indent)

/-- More words after a gap; what is done is held in pieces, the latest first. -/
def more (inFlow : Bool) (indent : Nat) : Nat → List (List Char) → Plain → Plain
  | 0, done, g => ⟨done.reverse.flatten, g.crossed, g.cursor⟩
  | fuel + 1, done, g =>
      let found := word inFlow g.cursor.rest
      if isLast inFlow indent g || found.isEmpty then ⟨done.reverse.flatten, g.crossed, g.cursor⟩
      else more inFlow indent fuel (found :: g.chars :: done) (gap (g.cursor.skip found.length))

/-- The scalar that starts here; its later lines have at least this indentation. -/
def scan (inFlow : Bool) (indent : Nat) (k : Cursor) : Plain :=
  let first := word inFlow k.rest
  more inFlow indent k.rest.length [first] (gap (k.skip first.length))

end Plain

end DeclarationFetch.Yaml
