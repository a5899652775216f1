import DeclarationFetch.Yaml.Cursor

/-!
# Block scalars

Lines that are indented alike, after a bar if their breaks stand for themselves or after a greater-than
sign if they are folded. The indentation is that of the first line that is not empty, unless the header
gives it. What becomes of the breaks at the end the header says too.
-/

namespace DeclarationFetch.Yaml.Block

inductive Ending where
  /-- One break is kept. -/
  | clip
  | strip
  | keep
  deriving Repr, DecidableEq

/-! ## Headers -/

def ending? (next : Option Char) : Option Ending :=
  match next with
  | some '+' => some .keep
  | some '-' => some .strip
  | _ => none

/-- A digit from one on; zero is no indentation. -/
def step? (next : Option Char) : Except Fault (Option Nat) :=
  match next with
  | some c =>
      if c = '0' then .error .malformed
      else .ok (if c.isDigit then some (c.toNat - 48) else none)
  | none => .ok none

/-- The ending and the indentation that a header gives, in either order. -/
def header (k : Cursor) : Except Fault (Ending × Option Nat × Cursor) := do
  match ending? k.peek with
  | some ending =>
      let step ← step? k.next.peek
      let after := if step.isSome then k.next.next else k.next
      if endsProperty after.peek then .ok (ending, step, after) else .error .malformed
  | none =>
      let step ← step? k.peek
      let after := if step.isSome then k.next else k
      match step, ending? after.peek with
      | some _, some ending =>
          if endsProperty after.next.peek then .ok (ending, step, after.next) else .error .malformed
      | _, _ => if endsProperty after.peek then .ok (.clip, step, after) else .error .malformed

/-! ## Lines -/

/-- The breaks of the empty lines before the first line, and the deepest indentation among them. -/
def leading : Nat → Nat → Cursor → List Char × Nat × Cursor
  | 0, deepest, k => ([], deepest, k)
  | fuel + 1, deepest, k =>
      let k := k.skipSpaces
      let deepest := max deepest k.column
      match k.peek with
      | none => ([], deepest, k)
      | some c =>
          if isBreak c then
            let (more, deepest, after) := leading fuel deepest k.next
            (breakChar c :: more, deepest, after)
          else ([], deepest, k)

/-- The breaks of empty lines, and the cursor at the indentation of the next line. -/
def emptyLines (indent : Nat) : Nat → Cursor → List Char × Cursor
  | 0, k => ([], k)
  | fuel + 1, k =>
      let k := k.indentTo indent
      match k.peek with
      | none => ([], k)
      | some c =>
          if isBreak c then
            let (more, after) := emptyLines indent fuel k.next
            (breakChar c :: more, after)
          else ([], k)

/-- Lines that are read, the break after the last of them and those of the empty lines that follow. -/
structure Lines where
  chars : List Char := []
  lineEnd : List Char := []
  breaks : List Char := []
  cursor : Cursor

def joint (fold : Bool) (s : Lines) (opensBlank : Bool) : List Char :=
  if fold && s.lineEnd == ['\n'] && !opensBlank && !s.cursor.peek.any isBlank then
    if s.breaks.isEmpty then [' '] else []
  else s.lineEnd

def lines (fold : Bool) (indent : Nat) : Nat → Lines → Lines
  | 0, s => s
  | fuel + 1, s =>
      if s.cursor.column ≠ indent ∨ s.cursor.rest = [] then s
      else
        let opensBlank := s.cursor.peek.any isBlank
        let (line, atEnd) := s.cursor.run fun c => !isBreak c
        let lineEnd := match atEnd.peek with
          | some c => [breakChar c]
          | none => []
        let (breaks, after) := emptyLines indent (atEnd.rest.length + 1) atEnd.next
        let read : Lines := ⟨s.chars ++ s.breaks ++ line, lineEnd, breaks, after⟩
        if after.column ≠ indent ∨ after.rest = [] then read
        else lines fold indent fuel { read with chars := read.chars ++ joint fold read opensBlank }

/-- The scalar whose indicator stands here, inside a collection of this indentation. -/
def scan (outer : Option Nat) (k : Cursor) : Except Fault (String × Cursor) := do
  let fold := k.peek = some '>'
  let (ending, step, k) ← header k.next
  let k ← k.finishLine
  let least := max 1 (outer.elim 0 (· + 1))
  let fuel := k.rest.length + 1
  let (indent, breaks, k) := match step with
    | some n =>
        let (breaks, after) := emptyLines (least + n - 1) fuel k
        (least + n - 1, breaks, after)
    | none =>
        let (breaks, deepest, after) := leading fuel 0 k
        (max least deepest, breaks, after)
  let s := lines fold indent fuel { breaks := breaks, cursor := k }
  let chars := match ending with
    | .strip => s.chars
    | .clip => s.chars ++ s.lineEnd
    | .keep => s.chars ++ s.lineEnd ++ s.breaks
  .ok (String.ofList chars, s.cursor)

end DeclarationFetch.Yaml.Block
