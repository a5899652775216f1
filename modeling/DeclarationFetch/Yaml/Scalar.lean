import DeclarationFetch.Decimal.Word
import DeclarationFetch.Text.Base64
import DeclarationFetch.Text.Basic
import DeclarationFetch.Value
import DeclarationFetch.Yaml.Cursor

/-!
# What scalars stand for

The forms of null, truth values, numbers and moments, and what is read from a scalar once it is known
which of them it is to be. A plain scalar of no such form is a text.

* Truth values are `yes`, `no`, `true`, `false`, `on` and `off`, in small letters, in capitals or with
  one capital.
* Integers are decimal, octal after `0`, hexadecimal after `0x` or binary after `0b`, or have parts of
  base sixty between colons. Underscores do not count.
* Other numbers have a point, and their exponent has a sign.
* A day has a year, a month and a day, and a moment has a time of day too.

A scalar may be marked as one of these without having its form. Reading is more generous than the forms.
-/

namespace DeclarationFetch.Yaml.Scalar

/-! ## Words -/

/-- A word in small letters, with one capital, and in capitals. -/
def cases (word : String) : List String := [word, word.capitalize, word.toUpper]

def isNull (s : String) : Bool := s = "~" || (cases "null").contains s

def trueWords : List String := ["yes", "true", "on"]

def falseWords : List String := ["no", "false", "off"]

def isBool (s : String) : Bool := ((trueWords ++ falseWords).flatMap cases).contains s

def readBool (s : String) : Except Fault Bool :=
  let word := s.toLower
  if trueWords.contains word then .ok true
  else if falseWords.contains word then .ok false
  else .error .noTruthValue

/-! ## Digits -/

def isDigitOrLine (c : Char) : Bool := c.isDigit || c = '_'

def isRun (p : Char → Bool) (cs : List Char) : Bool := !cs.isEmpty && cs.all p

/-- Digits and underscores that start with a digit. -/
def isGrouped (cs : List Char) : Bool := cs.head?.any Char.isDigit && cs.all isDigitOrLine

/-- One or two digits below sixty. -/
def isSixtieth (cs : List Char) : Bool :=
  match cs with
  | [c] => c.isDigit
  | [c, d] => '0' ≤ c && c ≤ '5' && d.isDigit
  | _ => false

/-- A number without underscores and without its sign, and whether the sign is a minus. There has to be
a character. -/
def unsigned (s : String) : Except Fault (Bool × String) :=
  match s.toList.filter (· ≠ '_') with
  | [] => .error .noCharacters
  | cs => .ok ((Decimal.unsign cs).1, String.ofList (Decimal.unsign cs).2)

/-- The parts between colons, the last first. -/
def parts (s : String) : List String := (s.splitOn ":").reverse

def required {α : Type} (fault : Fault) (found : Option α) : Except Fault α :=
  match found with
  | some a => .ok a
  | none => .error fault

/-! ## Integers -/

def isInt (cs : List Char) : Bool :=
  match (Decimal.unsign cs).2 with
  | ['0'] => true
  | '0' :: 'b' :: digits => isRun (fun c => c = '0' || c = '1' || c = '_') digits
  | '0' :: 'x' :: digits => isRun (fun c => (Text.hexValue? c).isSome || c = '_') digits
  | '0' :: digits => isRun (fun c => ('0' ≤ c && c ≤ '7') || c = '_') digits
  | size =>
      match size.splitOn ':' with
      | first :: parts => isGrouped first && parts.all isSixtieth
      | [] => false

/-- The sum of parts, from the last to the first, each weighing sixty times as much as the one after. -/
def sumInts : Int → Int → List String → Except Fault Int
  | _, sum, [] => .ok sum
  | weight, sum, part :: before => do
      sumInts (weight * 60) (sum + (← required .impossible (Decimal.wholeWord? part)) * weight) before

def readSize (s : String) : Except Fault Int :=
  let after (n : Nat) : String := String.ofList (s.toList.drop n)
  if s = "0" then .ok 0
  else if Text.startsWith s "0b" then required .impossible (Decimal.wholeWordIn? 2 'b' (after 2))
  else if Text.startsWith s "0x" then required .impossible (Decimal.wholeWordIn? 16 'x' (after 2))
  else if s = "" then .error .noCharacters
  else if Text.startsWith s "0" then required .impossible (Decimal.wholeWordIn? 8 'o' s)
  else sumInts 1 0 (parts s)

def readInt (s : String) : Except Fault Int := do
  let (negative, size) ← unsigned s
  (readSize size).map fun n => if negative then -n else n

/-! ## Other numbers -/

def isExponent (cs : List Char) : Bool :=
  match cs with
  | [] => true
  | e :: sign :: digits => (e = 'e' || e = 'E') && (sign = '+' || sign = '-') && isRun Char.isDigit digits
  | _ => false

def isPointed (cs : List Char) : Bool :=
  let (whole, rest) := cs.span isDigitOrLine
  match rest with
  | '.' :: more =>
      let (places, exponent) := more.span isDigitOrLine
      (if whole.isEmpty then isGrouped places else isGrouped whole) && isExponent exponent
  | _ => false

/-- Parts of base sixty, the last of which has a point. -/
def isPointedSixtieths (cs : List Char) : Bool :=
  let (whole, places) := cs.span (· ≠ '.')
  match whole.splitOn ':', places with
  | first :: second :: parts, _ :: digits =>
      isGrouped first && (second :: parts).all isSixtieth && digits.all isDigitOrLine
  | _, _ => false

def isInfinity (cs : List Char) : Bool :=
  cs.head? = some '.' && (cases "inf").contains (String.ofList (cs.drop 1))

def isNotANumber (cs : List Char) : Bool := [".nan", ".NaN", ".NAN"].contains (String.ofList cs)

/-- The sign needs a digit after it, or `.inf`. -/
def isFloat (cs : List Char) : Bool :=
  let size := (Decimal.unsign cs).2
  isNotANumber cs || isInfinity size ||
    (isPointed size && (size == cs || size.head?.any Char.isDigit)) || isPointedSixtieths size

def sumFloats : Nat → Double → List String → Except Fault Double
  | _, sum, [] => .ok sum
  | weight, sum, part :: before => do
      let x ← required .impossible (Decimal.decimalWord? part)
      let w ← required .outOfRange (Decimal.ofInt? weight)
      sumFloats (weight * 60) (sum + x * w) before

def readMagnitude (s : String) : Except Fault Double :=
  match parts s with
  | [whole] => required .impossible (Decimal.decimalWord? whole)
  | parts => do
      let xs ← parts.mapM fun part => required .impossible (Decimal.decimalWord? part)
      if xs.isEmpty then .error .impossible else sumFloats 1 0.0 parts

def readFloat (s : String) : Except Fault Double := do
  let (negative, size) ← unsigned s.toLower
  let sign : Double := if negative then -1.0 else 1.0
  if size = ".inf" then return sign * .infinite false
  else if size = ".nan" then return .nan true
  else return sign * (← readMagnitude size)

/-! ## Days and moments -/

def isNumber (least most : Nat) (cs : List Char) : Bool :=
  cs.all Char.isDigit && least ≤ cs.length && cs.length ≤ most

def digits? (least most : Nat) (cs : List Char) : Option (Nat × List Char) :=
  let (found, rest) := cs.span Char.isDigit
  if isNumber least most found then some (Decimal.natOfDigits found, rest) else none

def after? (mark : Char) (least most : Nat) (cs : List Char) : Option (Nat × List Char) :=
  match cs with
  | c :: rest => if c = mark then digits? least most rest else none
  | [] => none

/-- The minutes by which a clock is ahead: `Z`, or a sign with hours and perhaps minutes; or nothing. -/
def ahead? (cs : List Char) : Option (Option Int) :=
  match cs.dropWhile isBlank with
  | [] => if cs.isEmpty then some none else none
  | ['Z'] => some (some 0)
  | sign :: offset => do
      let (hours, rest) ← digits? 1 2 offset
      let minutes ← if rest.isEmpty then some 0
        else (after? ':' 2 2 rest).bind fun found => if found.2.isEmpty then some found.1 else none
      let size : Int := hours * 60 + minutes
      if sign = '+' then some (some size) else if sign = '-' then some (some (-size)) else none

/-- A point and digits, of which six count as microseconds; or nothing. -/
def fraction (cs : List Char) : Nat × List Char :=
  match cs with
  | '.' :: rest =>
      let (places, rest) := rest.span Char.isDigit
      (Decimal.natOfDigits ((places ++ List.replicate 6 '0').take 6), rest)
  | _ => (0, cs)

/-- A time of day with the letter or the blanks before it. -/
def time? (day : Day) (cs : List Char) : Option Moment := do
  let clock ← match cs with
    | c :: rest =>
        if isBlank c then some (rest.dropWhile isBlank)
        else if c = 'T' ∨ c = 't' then some rest else none
    | [] => none
  let (hour, rest) ← digits? 1 2 clock
  let (minute, rest) ← after? ':' 2 2 rest
  let (second, rest) ← after? ':' 2 2 rest
  let (micro, rest) := fraction rest
  return { day, hour, minute, second, micro, ahead := ← ahead? rest }

/-- The day at the start of a text, and whether month and day are of full width. -/
def day? (cs : List Char) : Option (Day × Bool × List Char) := do
  let (year, rest) ← digits? 4 4 cs
  let (month, afterMonth) ← after? '-' 1 2 rest
  let (day, afterDay) ← after? '-' 1 2 afterMonth
  return (⟨year, month, day⟩, rest.length = afterDay.length + 6, afterDay)

/-- Without a time, month and day are of full width. -/
def isMoment (cs : List Char) : Bool :=
  match day? cs with
  | some (day, full, rest) => if rest.isEmpty then full else (time? day rest).isSome
  | none => false

def chomp (cs : List Char) : List Char := if cs.getLast? = some '\n' then cs.dropLast else cs

def readMoment (s : String) : Except Fault Value :=
  match day? (chomp s.toList) with
  | none => .error .noMoment
  | some (day, _, []) => if day.isValid then .ok (.date day) else .error .impossible
  | some (day, _, rest) =>
      match time? day rest with
      | none => .error .noMoment
      | some m => if m.isValid then .ok (.moment m) else .error .impossible

/-! ## Bytes -/

def readBytes (s : String) : Except Fault Value :=
  if s.toList.any fun c => 0x7F < c.toNat then .error .malformed
  else (required .malformed (Text.Base64.bytes? s.toList)).map .bytes

end DeclarationFetch.Yaml.Scalar
