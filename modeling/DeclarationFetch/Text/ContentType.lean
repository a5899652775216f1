import DeclarationFetch.Text.Basic
import DeclarationFetch.Text.Charset

/-!
# Content types

The character set that a content type names. A content type is a list of parameters between semicolons.
The value of a parameter after the first one may come in numbered pieces, of which some are written in
percent signs, behind the name of a character set and a language of their own.
-/

namespace DeclarationFetch.Text.ContentType

/-! ## Parameters -/

structure Parameter where
  name : List Char
  value : List Char
  deriving Repr, DecidableEq

/-- The text between semicolons that do not stand in quotes. A quote after a backslash is none. -/
def segments (cs : List Char) : List (List Char) :=
  let (_, _, last, done) := cs.foldl (fun (quoted, before, part, done) c =>
    if c = ';' && !quoted then (false, ' ', [], part.reverse :: done)
    else (quoted ^^ (c = '"' && before ≠ '\\'), c, c :: part, done))
    ((false, ' ', [], []) : Bool × Char × List Char × List (List Char))
  (last.reverse :: done).reverse

def isSpace (c : Char) : Bool := isBlank c || (0x1C ≤ c.toNat && c.toNat ≤ 0x1F)

/-- A name in small letters before its value, or a name alone. -/
def parameter (segment : List Char) : Parameter :=
  match segment.span (· ≠ '=') with
  | (name, _ :: value) => ⟨(trimBy isSpace name).map Char.toLower, trimBy isSpace value⟩
  | (name, []) => ⟨trimBy isSpace name, []⟩

/-- A value without the quotes or the angles around it. -/
def unquote (cs : List Char) : List Char :=
  let inner := (cs.drop 1).dropLast
  if cs.length < 2 then cs
  else if cs.head? = some '"' ∧ cs.getLast? = some '"' then
    replaceAllIn ['\\', '"'] ['"'] 0 (replaceAllIn ['\\', '\\'] ['\\'] 0 inner)
  else if cs.head? = some '<' ∧ cs.getLast? = some '>' then inner
  else cs

/-! ## Pieces -/

structure Piece where
  name : List Char
  number : Option Nat
  value : List Char
  /-- Whether the value is written in percent signs. -/
  written : Bool
  deriving Repr, DecidableEq

/-- A piece by its name: a word, a star, and perhaps a number and another star. -/
def piece? (p : Parameter) : Option Piece :=
  let (name, rest) := p.name.span fun c => c.isAlphanum || c = '_'
  match name, rest with
  | _ :: _, '*' :: rest =>
      let (digits, star) := rest.span Char.isDigit
      let number := digits.foldl (fun n c => n * 10 + (c.toNat - 48)) 0
      if digits = [] then (if star = [] then some ⟨name, none, unquote p.value, true⟩ else none)
      else if star = [] ∨ star = ['*'] then some ⟨name, some number, unquote p.value, star ≠ []⟩
      else none
  | _, _ => none

/-- Pieces go by number, then by value, and those in percent signs come last. -/
def Piece.le (a b : Piece) : Bool :=
  if a.number ≠ b.number then a.number.getD 0 ≤ b.number.getD 0
  else if a.value ≠ b.value then decide (a.value < b.value)
  else !a.written || b.written

/-- The characters below 0x100 that percent signs stand for. -/
def unpercent : Nat → List Char → List Char
  | _, [] => []
  | skip + 1, _ :: rest => unpercent skip rest
  | 0, c :: rest =>
      match c, rest with
      | '%', a :: b :: _ =>
          match hexValue? a, hexValue? b with
          | some high, some low => Char.ofNat (high * 16 + low) :: unpercent 2 rest
          | _, _ => c :: unpercent 0 rest
      | _, _ => c :: unpercent 0 rest

def Piece.text (p : Piece) : List Char := if p.written then unpercent 0 p.value else p.value

/-- A text behind the name of its character set and its language, each with an apostrophe after it, read
in that character set if it can be. -/
def readOwn (cs : List Char) : List Char :=
  match cs.splitOn '\'' with
  | origin :: _ :: first :: more =>
      let value := ['\''].intercalate (first :: more)
      let set := if origin = [] then some Charset.ascii else Charset.ofName? origin
      let bytes := value.map fun c => c.toNat.toUInt8
      let text := (set.bind fun set => (set.decode bytes).toOption).map String.toList
      (text.filter fun cs => !cs.contains replacement).getD value
  | _ => cs

def join (pieces : List Piece) : List Char :=
  let sorted := pieces.mergeSort Piece.le
  let text := sorted.flatMap Piece.text
  if sorted.any Piece.written then readOwn text else text

/-- The numbers of pieces of one name cannot be compared if some have none. -/
def isUnnumbered (pieces : List Piece) : Bool :=
  1 < pieces.length && (pieces.any fun p => p.number.isNone) && pieces.any fun p => p.number.isSome

/-! ## The character set -/

def isCharset (name : List Char) : Bool := name.map Char.toLower = "charset".toList

def groups (pieces : List Piece) : List (List Char × List Piece) :=
  (pieces.map Piece.name).eraseDups.map fun name => (name, pieces.filter fun p => p.name = name)

/-- The first value of the name `charset`, where pieces come after whole values. -/
def value? (whole : List Parameter) (pieces : List Piece) : Option (List Char) :=
  ((whole.find? fun p => isCharset p.name).map fun p => unquote p.value).or
    (((groups pieces).find? fun group => isCharset group.1).map fun group => join group.2)

def charset? (contentType : String) : Except Unreadable (Option (List Char)) :=
  let parameters := (segments contentType.toList).map parameter
  let pieces := (parameters.drop 1).filterMap piece?
  let whole := parameters.take 1 ++ ((parameters.drop 1).filter fun p => (piece? p).isNone)
  if (groups pieces).any fun group => isUnnumbered group.2 then .error .unnumbered
  else .ok ((value? whole pieces).filter fun cs => cs.all fun c => c.toNat < 0x80)

/-- UTF-8 unless another known character set is named. -/
def charset (contentType : Option String) : Except Unreadable Charset := do
  let name ← match contentType with
    | some contentType => charset? contentType
    | none => .ok none
  if (name.getD []).contains (Char.ofNat 0) then .error .nul
  else .ok ((name.bind Charset.ofName?).getD Charset.utf8)

end DeclarationFetch.Text.ContentType
