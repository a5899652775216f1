import DeclarationFetch.Decimal.Whole
import DeclarationFetch.Problem
import DeclarationFetch.Text.Utf8
import DeclarationFetch.Value

/-!
# Scalars from values

Settings may write a scalar in more than one way: a truth value as a word or as zero and one, a number
as a text, and a text as the bytes of its UTF-8 form.
-/

namespace DeclarationFetch.Value

/-- What a scalar is given as: text, written out or as bytes, or something else. -/
def written (fault : ProblemKind) (value : Value) : Except ProblemKind (Option String) :=
  match value with
  | text s => .ok (some s)
  | bytes b =>
      match Text.Utf8.decode? b with
      | some s => .ok (some s)
      | none => .error fault
  | _ => .ok none

def asText (value : Value) : Except ProblemKind String := do
  match ← value.written .stringUnicode with
  | some s => .ok s
  | none => .error .stringType

/-! ## Truth values -/

def trueWords : List String := ["1", "true", "t", "yes", "y", "on"]

def falseWords : List String := ["0", "false", "f", "no", "n", "off"]

/-- The whole numbers that fit into sixty-four bits. -/
def isWord (n : Int) : Bool := -0x8000000000000000 ≤ n && n < 0x8000000000000000

/-- A number that does not fit into a word is not even looked at as a truth value. -/
def boolOfInt (n : Int) : Except ProblemKind Bool :=
  if n = 0 then .ok false else if n = 1 then .ok true
  else .error (if isWord n then .boolParsing else .boolType)

def boolOfText (s : String) : Except ProblemKind Bool :=
  let word := String.ofList (s.toList.map Char.toLower)
  if word ∈ trueWords then .ok true
  else if word ∈ falseWords then .ok false
  else .error .boolParsing

/-- The whole number that a double stands for. The two ends of the range of a word are out of range. -/
def intOfFloat (x : Double) : Except ProblemKind Int :=
  match x, x.whole? with
  | _, some n => if isWord n && n ≠ -0x8000000000000000 then .ok n else .error .intParsingSize
  | .finite _ _, none => .error .intFromFloat
  | _, none => .error .finiteNumber

def asBool (value : Value) : Except ProblemKind Bool := do
  match value, ← value.written .boolParsing with
  | _, some s => boolOfText s
  | bool b, _ => .ok b
  | int n, _ => boolOfInt n
  | float x, _ =>
      match intOfFloat x with
      | .ok n => boolOfInt n
      | .error _ => .error .boolType
  | _, _ => .error .boolType

/-! ## Numbers -/

def intOfText (s : String) : Except ProblemKind Int :=
  (Decimal.whole s.toList).mapError fun
    | .malformed => .intParsing
    | .tooLong => .intParsingSize

def asInt (value : Value) : Except ProblemKind Int := do
  match value, ← value.written .intParsing with
  | _, some s => intOfText s
  | bool b, _ => .ok (if b then 1 else 0)
  | int n, _ => .ok n
  | float x, _ => intOfFloat x
  | _, _ => .error .intType

def floatOfText (s : String) : Except ProblemKind Double :=
  match Decimal.decimal? (Text.trimBy Text.isBlank s.toList) with
  | some x => .ok x
  | none =>
      match (Decimal.ungroup? s.toList).bind Decimal.decimal? with
      | some x => .ok x
      | none => .error .floatParsing

def asFloat (value : Value) : Except ProblemKind Double := do
  match value, ← value.written .floatParsing with
  | _, some s => floatOfText s
  | bool b, _ => .ok (if b then 1.0 else 0.0)
  | int n, _ =>
      match Decimal.ofInt? n with
      | some x => .ok x
      | none => .error .floatType
  | float x, _ => .ok x
  | _, _ => .error .floatType

/-! ## Handlers -/

/-- No value read from a document can be called. -/
def asHandler : Value → Except ProblemKind Unit
  | null => .ok ()
  | _ => .error .callableType

end DeclarationFetch.Value
