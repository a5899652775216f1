import DeclarationFetch.Text.Basic

/-!
# Finding import specifiers

Imports come in three shapes, and a source text is searched for each of them on its own:

* `import <clause> from '<specifier>'`, the longest clause that fits on the line;
* `await import('<specifier>')`;
* `require('<specifier>')`.

Either quote may open or close a specifier, a specifier is at least one character long and as short as
its shape allows, and an occurrence lies on one line. The search goes on after the end of each
occurrence. The specifiers are listed by shape, and within one shape in the order of the text.
-/

namespace DeclarationFetch.Specifier

/-- An occurrence of a shape: its specifier and the number of its characters. -/
structure Found where
  specifier : List Char
  length : Nat
  deriving Repr, DecidableEq

/-- An occurrence at the start of a text. -/
abbrev Shape := List Char → Option Found

def Found.grow (n : Nat) (f : Found) : Found := { f with length := f.length + n }

def isQuote (c : Char) : Bool := c = '\'' || c = '"'

/-- The shortest text on this line up to a closing mark, which takes `width` characters. -/
def upTo? (closes : List Char → Bool) (width : Nat) : List Char → Option Found
  | [] => none
  | c :: rest =>
      if closes (c :: rest) then some ⟨[], width⟩
      else if c = '\n' then none
      else (upTo? closes width rest).map fun f => ⟨c :: f.specifier, f.length + 1⟩

/-- At least one character, an opening quote before it and a closing mark after it. -/
def quotedUpTo? (closes : List Char → Bool) (width : Nat) : Shape
  | q :: c :: rest =>
      if isQuote q && c ≠ '\n' then
        (upTo? closes width rest).map fun f => ⟨c :: f.specifier, f.length + 2⟩
      else none
  | _ => none

def closesQuote : List Char → Bool
  | c :: _ => isQuote c
  | [] => false

def closesCall : List Char → Bool
  | q :: ')' :: _ => isQuote q
  | _ => false

def after? (lead : List Char) (cs : List Char) : Option (List Char) :=
  if lead.isPrefixOf cs then some (cs.drop lead.length) else none

def following (lead : List Char) (shape : Shape) : Shape := fun cs =>
  ((after? lead cs).bind shape).map (Found.grow lead.length)

/-- A shape after at most one blank. -/
def spaced (shape : Shape) : Shape
  | ' ' :: rest => (shape rest).map (Found.grow 1)
  | cs => shape cs

/-! ## The shapes -/

/-- The last place on the line, after at least one character, where the shape occurs. -/
def lastOnLine (shape : Shape) : Shape
  | [] => none
  | c :: rest =>
      if c = '\n' then none
      else ((lastOnLine shape rest).or (shape rest)).map (Found.grow 1)

def fromClause : Shape := following " from".toList (spaced (quotedUpTo? closesQuote 1))

def static : Shape := following "import ".toList (lastOnLine fromClause)

def callArgument : Shape := spaced (following ['('] (quotedUpTo? closesCall 2))

def dynamic : Shape := following "await import".toList callArgument

def require : Shape := following "require".toList callArgument

def shapes : List Shape := [static, dynamic, require]

theorem forall_shapes {P : Shape → Prop} (hstatic : P static) (hdynamic : P dynamic)
    (hrequire : P require) : ∀ shape ∈ shapes, P shape := by
  simp [shapes, hstatic, hdynamic, hrequire]

/-! ## The search -/

/-- The specifiers of all occurrences, `skip` counting what is left of the last one. -/
def occurrences (shape : Shape) : Nat → List Char → List (List Char)
  | _, [] => []
  | skip + 1, _ :: rest => occurrences shape skip rest
  | 0, c :: rest =>
      match shape (c :: rest) with
      | some f => f.specifier :: occurrences shape (f.length - 1) rest
      | none => occurrences shape 0 rest

def extract (source : String) : List String :=
  shapes.flatMap fun shape => (occurrences shape 0 source.toList).map String.ofList

end DeclarationFetch.Specifier
