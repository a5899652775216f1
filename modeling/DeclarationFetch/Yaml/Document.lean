import DeclarationFetch.Yaml.Lexer
import DeclarationFetch.Yaml.Node

/-!
# Values of YAML texts

A node is read as its tag says. Keys are scalars, and of the same keys the last value counts.

* The entries that a mapping takes over by a merge key stand before its own, and of several mappings
  under one merge key the first counts most. Taking over goes before all reading.
* A collection is opened when its surroundings are read, and what it holds is read when all that is
  nearer to the root is. So of several faults the one nearest to the root is found, and of those the
  first.
-/

namespace DeclarationFetch.Yaml

/-! ## Scalars -/

mutual
/-- The text of a node that is read as a scalar. A mapping stands for what it holds under an equals
sign. -/
def scalarText? : Node → Option String
  | .scalar _ s => some s
  | .map _ entries => equalsText? entries
  | _ => none

def equalsText? : List (Node × Node) → Option String
  | [] => none
  | (key, item) :: rest => if key.tag? = some .equals then scalarText? item else equalsText? rest
end

def isMapping : Node → Bool
  | .map _ _ => true
  | _ => false

def readScalar (tag : Tag) (node : Node) : Except Fault Value := do
  match scalarText? node with
  | none => .error .malformed
  | some s =>
      match tag with
      | .null => .ok .null
      | .bool => (Scalar.readBool s).map .bool
      | .int => (Scalar.readInt s).map .int
      | .float => (Scalar.readFloat s).map .float
      | .moment => if isMapping node then .error .mappingAsMoment else Scalar.readMoment s
      | .text => .ok (.text s)
      | .bytes => Scalar.readBytes s
      | _ => .error .malformed

/-! ## Faults by depth -/

/-- A result, or a fault with the depth at which it was found. -/
abbrev Found (α : Type) := Except (Nat × Fault) α

def Found.both {α β : Type} (a : Found α) (b : Found β) : Found (α × β) :=
  match a, b with
  | .ok x, .ok y => .ok (x, y)
  | .error p, .ok _ => .error p
  | .ok _, .error q => .error q
  | .error p, .error q => .error (if q.1 < p.1 then q else p)

def Found.join {α : Type} (a b : Found (List α)) : Found (List α) :=
  (a.both b).map fun (xs, ys) => xs ++ ys

/-! ## Taking over -/

def isMerge (key : Node) : Bool := key.tag? = some .merge

mutual
/-- Whether every merge key among the entries stands for a mapping or for a list of mappings. -/
def mergesWell : List (Node × Node) → Bool
  | [] => true
  | (key, item) :: rest => (!isMerge key || givesEntries item) && mergesWell rest

def givesEntries : Node → Bool
  | .enclosing _ => true
  | .scalar _ _ => false
  | .map _ entries => mergesWell entries
  | .list _ items => allMappings items

def allMappings : List Node → Bool
  | [] => true
  | .enclosing _ :: rest => allMappings rest
  | .map _ entries :: rest => mergesWell entries && allMappings rest
  | _ => false
end

/-! ## Values -/

/-- The parts of a mapping: what it takes over, and its own entries. -/
structure Parts where
  taken : Found (List (Value × Value)) := .ok []
  own : Found (List (Value × Value)) := .ok []

def Parts.all (p : Parts) : Found (List (Value × Value)) := p.taken.join p.own

/-- The value of a key. An equals sign as a key is a text. -/
def keyValue (depth : Nat) (key : Node) : Found Value :=
  match key.tag? with
  | none => .error (depth, .malformed)
  | some tag => (readScalar (if tag = .equals then .text else tag) key).mapError (depth, ·)

mutual
/-- The value of a node at a depth. What a node that it is a part of stands for is left open. -/
def value (depth : Nat) : Node → Found Value
  | .enclosing _ => .ok .null
  | .scalar tag s =>
      if tag.isCollection then .error (depth + 1, .malformed)
      else (readScalar tag (.scalar tag s)).mapError (depth, ·)
  | .list tag items =>
      match tag with
      | .list => (values (depth + 1) items).map .list
      | .pairs => (pairs (depth + 1) items).map .list
      | _ => .error (if tag.isCollection then depth + 1 else depth, .malformed)
  | .map tag entries =>
      if tag = .map ∨ tag = .set then
        if mergesWell entries then
          (parts (depth + 1) entries).all.map fun all =>
            if tag = .map then .ofEntries all else .setOfKeys all
        else .error (depth + 1, .malformed)
      else if tag.isCollection then .error (depth + 1, .malformed)
      else (readScalar tag (.map tag entries)).mapError (depth, ·)

def values (depth : Nat) : List Node → Found (List Value)
  | [] => .ok []
  | item :: rest => ((value depth item).both (values depth rest)).map fun (v, vs) => v :: vs

/-- Mappings of one entry each, as lists of key and value. -/
def pairs (depth : Nat) : List Node → Found (List Value)
  | [] => .ok []
  | .map _ [(key, item)] :: rest =>
      let pair : Found (List Value) :=
        ((value depth key).both (value depth item)).map fun (k, v) => [Value.list [k, v]]
      pair.join (pairs depth rest)
  | _ => .error (depth, .malformed)

def parts (depth : Nat) : List (Node × Node) → Parts
  | [] => {}
  | (key, item) :: rest =>
      let more := parts depth rest
      if isMerge key then { more with taken := (takenOver depth item).join more.taken }
      else
        let entry : Found (List (Value × Value)) := ((keyValue depth key).both (value depth item)).map fun e => [e]
        { more with own := entry.join more.own }

/-- The entries that a value under a merge key brings. -/
def takenOver (depth : Nat) : Node → Found (List (Value × Value))
  | .map _ entries => (parts depth entries).all
  | .list _ items => takenFromAll depth items
  | _ => .ok []

/-- The entries of the last mapping come first, so that those of the first one count. -/
def takenFromAll (depth : Nat) : List Node → Found (List (Value × Value))
  | [] => .ok []
  | item :: rest => (takenFromAll depth rest).join (takenOver depth item)
end

/-- The value of a text; one that holds nothing is null. -/
def read (text : String) : Except Fault Value := do
  let cs := text.toList
  if !cs.all isAllowed then .error .malformed
  else
    match ← Node.ofScan (Token.ofText cs) with
    | none => .ok .null
    | some node => (value 0 node).mapError Prod.snd

end DeclarationFetch.Yaml
