import DeclarationFetch.Yaml.Scalar
import DeclarationFetch.Yaml.Token

/-!
# Nodes

The tree that the tokens of a text spell. Each node has a tag, which says what it is to be read as: one
that is written out, or else the one that its form has.

* A key or a value that is left out is an empty plain scalar.
* A reference stands for the node that has the anchor. Each anchor is set once and before it is used.
* There is at most one document in a text.
-/

namespace DeclarationFetch.Yaml

inductive Tag where
  | null
  | bool
  | int
  | float
  | moment
  | text
  | bytes
  | list
  /-- A list of mappings with one entry each. -/
  | pairs
  | map
  /-- A mapping whose values do not count. -/
  | set
  /-- The key under which a mapping takes over the entries of others. -/
  | merge
  | equals
  | unknown
  deriving Repr, DecidableEq

namespace Tag

def standardLead : String := "tag:yaml.org,2002:"

def ofName (name : String) : Tag :=
  let standard : List (String × Tag) := [("null", null), ("bool", bool), ("int", int),
    ("float", float), ("timestamp", moment), ("str", text), ("binary", bytes), ("seq", list),
    ("omap", pairs), ("pairs", pairs), ("map", map), ("set", set), ("merge", merge), ("value", equals)]
  match standard.find? fun entry => standardLead ++ entry.1 = name with
  | some (_, tag) => tag
  | none => unknown

/-- Marks that cannot stand for themselves. -/
def isMark (s : String) : Bool := s = "!" || s = "&" || s = "*"

/-- The tag of a scalar by its form. A line break at the end does not count. -/
def ofForm (s : String) : Tag :=
  let cs := Scalar.chomp s.toList
  let form := String.ofList cs
  if s = "" then null
  else if Scalar.isBool form then bool
  else if Scalar.isFloat cs then float
  else if Scalar.isInt cs then int
  else if form = "<<" then merge
  else if Scalar.isNull form then null
  else if Scalar.isMoment cs then moment
  else if form = "=" then equals
  else if isMark form then unknown
  else text

def isCollection (t : Tag) : Bool := t = list || t = pairs || t = map || t = set

end Tag

inductive Node where
  /-- A reference to a node that it is a part of. -/
  | enclosing (anchor : String)
  | scalar (tag : Tag) (text : String)
  | list (tag : Tag) (items : List Node)
  | map (tag : Tag) (entries : List (Node × Node))

namespace Node

instance : Inhabited Node := ⟨scalar .null ""⟩

def tag? : Node → Option Tag
  | enclosing _ => none
  | scalar tag _ => some tag
  | list tag _ => some tag
  | map tag _ => some tag

def missing : Node := scalar .null ""

/-! ## Reading tokens -/

structure Reading where
  tokens : List Token
  /-- What is found after the tokens instead of the end of the text. -/
  fault : Option Fault
  handles : List (TagHandle × String) := []
  /-- The nodes with anchors; one that is not complete yet has no node. -/
  anchors : List (String × Option Node) := []

abbrev Reader (α : Type) := StateT Reading (Except Fault) α

def refuse {α : Type} : Reader α := fun _ => .error .malformed

def peek : Reader (Option Token) := fun r =>
  match r.tokens, r.fault with
  | [], some fault => .error fault
  | tokens, _ => .ok (tokens.head?, r)

def advance : Reader Unit := fun r => .ok ((), { r with tokens := r.tokens.drop 1 })

/-- Whether this token is next, which is then passed. -/
def passes (t : Token) : Reader Bool := do
  if (← peek) = some t then do
    advance
    pure true
  else pure false

def expect (t : Token) : Reader Unit := do if ← passes t then pure () else refuse

def isAt (tokens : List Token) : Reader Bool := do return (← peek).any tokens.contains

/-! ## Properties -/

structure Properties where
  anchor : Option String := none
  tag : Option (Option TagHandle × String) := none

def properties : Nat → Properties → Reader Properties
  | 0, p => pure p
  | more + 1, p => do
      match ← peek, p.anchor, p.tag with
      | some (.anchor name), none, _ => do advance; properties more { p with anchor := some name }
      | some (.tag handle suffix), _, none => do
          advance
          properties more { p with tag := some (handle, suffix) }
      | _, _, _ => pure p

def inFull (p : Properties) : Reader Properties := fun r =>
  match p.tag with
  | some (some handle, suffix) =>
      match r.handles.lookup handle with
      | some lead => .ok ({ p with tag := some (none, lead ++ suffix) }, r)
      | none => .error .malformed
  | _ => .ok (p, r)

/-- The tag that is written out; a lone `!` leaves it to the form. -/
def Properties.given? (p : Properties) : Option Tag :=
  match p.tag with
  | some (_, name) => if name = "!" then none else some (Tag.ofName name)
  | none => none

def Properties.scalarTag (p : Properties) (plain : Bool) (text : String) : Tag :=
  p.given?.getD (if plain || p.tag.isSome then Tag.ofForm text else .text)

def openAnchor (p : Properties) : Reader Unit := fun r =>
  match p.anchor with
  | none => .ok ((), r)
  | some name =>
      if (r.anchors.lookup name).isSome then .error .malformed
      else .ok ((), { r with anchors := (name, none) :: r.anchors })

def closeAnchor (p : Properties) (node : Node) : Reader Node := fun r =>
  match p.anchor with
  | none => .ok (node, r)
  | some name => .ok (node, { r with anchors := (name, some node) :: r.anchors })

def referenced (name : String) : Reader Node := fun r =>
  match r.anchors.lookup name with
  | some (some node) => .ok (node, r)
  | some none => .ok (enclosing name, r)
  | none => .error .malformed

/-! ## Nodes from tokens -/

mutual
/-- One node. In a block context block collections may stand here, and after a key also a sequence that
is not indented. Every step passes a token or goes down into a collection that it opened. -/
def read (inBlock bareEntries : Bool) : Nat → Reader Node
  | 0 => refuse
  | fuel + 1 => do
      match ← peek with
      | some (.reference name) => do
          advance
          referenced name
      | _ => do
          let p ← inFull (← properties 2 {})
          let _ ← peek
          openAnchor p
          closeAnchor p (← content inBlock bareEntries p fuel)

def content (inBlock bareEntries : Bool) (p : Properties) : Nat → Reader Node
  | 0 => refuse
  | fuel + 1 => do
      let listTag := p.given?.getD .list
      let mapTag := p.given?.getD .map
      match ← peek with
      | some (.scalar plain text) => do
          advance
          pure (scalar (p.scalarTag plain text) text)
      | some .flowSequence => do
          advance
          pure (list listTag (← flowItems true fuel))
      | some .flowMapping => do
          advance
          pure (map mapTag (← flowEntries true fuel))
      | some .blockEntry =>
          if bareEntries then do pure (list listTag (← bareItems fuel)) else emptyNode p
      | some .blockSequence =>
          if inBlock then do
            advance
            pure (list listTag (← blockItems fuel))
          else emptyNode p
      | some .blockMapping =>
          if inBlock then do
            advance
            pure (map mapTag (← blockEntries fuel))
          else emptyNode p
      | _ => emptyNode p

def emptyNode (p : Properties) : Reader Node :=
  if p.anchor.isSome || p.tag.isSome then pure (scalar (p.scalarTag true "") "") else refuse

/-- A node, or none before these tokens. -/
def readUnless (ends : List Token) (inBlock bareEntries : Bool) : Nat → Reader Node
  | 0 => refuse
  | fuel + 1 => do if ← isAt ends then pure missing else read inBlock bareEntries fuel

def blockItems : Nat → Reader (List Node)
  | 0 => refuse
  | fuel + 1 => do
      if ← passes .blockEntry then do
        let item ← readUnless [.blockEntry, .blockEnd] true false fuel
        pure (item :: (← blockItems fuel))
      else do
        expect .blockEnd
        pure []

def bareItems : Nat → Reader (List Node)
  | 0 => refuse
  | fuel + 1 => do
      if ← passes .blockEntry then do
        let item ← readUnless [.blockEntry, .key, .value, .blockEnd] true false fuel
        pure (item :: (← bareItems fuel))
      else pure []

def blockEntries : Nat → Reader (List (Node × Node))
  | 0 => refuse
  | fuel + 1 => do
      if ← passes .key then do
        let key ← readUnless [.key, .value, .blockEnd] true true fuel
        let value ←
          if ← passes .value then readUnless [.key, .value, .blockEnd] true true fuel
          else pure missing
        pure ((key, value) :: (← blockEntries fuel))
      else do
        expect .blockEnd
        pure []

/-- Items with a comma between each two and perhaps one at the end. An item with a key is a mapping of
one entry. -/
def flowItems (first : Bool) : Nat → Reader (List Node)
  | 0 => refuse
  | fuel + 1 => do
      if ← passes .flowSequenceEnd then pure []
      else do
        if !first then expect .flowEntry
        if ← passes .flowSequenceEnd then pure []
        else do
          let item ←
            if ← passes .key then do
              let key ← readUnless [.value, .flowEntry, .flowSequenceEnd] false false fuel
              let value ←
                if ← passes .value then
                  readUnless [.flowEntry, .flowSequenceEnd] false false fuel
                else pure missing
              pure (map .map [(key, value)])
            else read false false fuel
          pure (item :: (← flowItems false fuel))

def flowEntries (first : Bool) : Nat → Reader (List (Node × Node))
  | 0 => refuse
  | fuel + 1 => do
      if ← passes .flowMappingEnd then pure []
      else do
        if !first then expect .flowEntry
        if ← passes .flowMappingEnd then pure []
        else do
          let entry ←
            if ← passes .key then do
              let key ← readUnless [.value, .flowEntry, .flowMappingEnd] false false fuel
              let value ←
                if ← passes .value then
                  readUnless [.flowEntry, .flowMappingEnd] false false fuel
                else pure missing
              pure (key, value)
            else do pure (← read false false fuel, missing)
          pure (entry :: (← flowEntries false fuel))
end

/-! ## Documents -/

structure Preamble where
  hasVersion : Bool := false
  handles : List (TagHandle × String) := []

def preamble : Nat → Preamble → Reader Preamble
  | 0, _ => refuse
  | fuel + 1, p => do
      match ← peek with
      | some (.directive d) => do
          advance
          match d with
          | .version major =>
              if p.hasVersion || major ≠ 1 then refuse
              else preamble fuel { p with hasVersion := true }
          | .tags handle lead =>
              if (p.handles.lookup handle).isSome then refuse
              else preamble fuel { p with handles := (handle, lead) :: p.handles }
          | .other => preamble fuel p
      | _ => pure p

def standardHandles : List (TagHandle × String) := [("!", "!"), ("!!", Tag.standardLead)]

def setHandles (handles : List (TagHandle × String)) : Reader Unit := fun r =>
  .ok ((), { r with handles := handles ++ standardHandles })

def isDirective : Option Token → Bool
  | some (.directive _) => true
  | _ => false

/-- The node of a document whose start is marked; it may be left out. -/
def markedDocument (fuel : Nat) : Reader Node := do
  let p ← preamble fuel {}
  setHandles p.handles
  expect .documentStart
  let next ← peek
  if next.isNone || isDirective next || (← isAt [.documentStart, .documentEnd]) then pure missing
  else read true false fuel

def dropEnds : Nat → Reader Unit
  | 0 => pure ()
  | fuel + 1 => do if ← passes .documentEnd then dropEnds fuel else pure ()

/-- The node of the only document, if there is one. -/
def document (fuel : Nat) : Reader (Option Node) := do
  let next ← peek
  if next.isNone then pure none
  else do
    let node ←
      if isDirective next || (← isAt [.documentStart]) then markedDocument fuel
      else do
        setHandles []
        read true false fuel
    dropEnds fuel
    if (← peek).isSome then refuse else pure (some node)

/-- Each token takes at most three steps down. -/
def ofScan (s : Scan) : Except Fault (Option Node) :=
  (document (3 * s.tokens.length + 3) { tokens := s.tokens, fault := s.fault }).map Prod.fst

end Node

end DeclarationFetch.Yaml
