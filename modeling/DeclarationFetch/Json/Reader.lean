import DeclarationFetch.Value
import DeclarationFetch.Decimal.Reading
import DeclarationFetch.Text.Hexadecimal

/-!
# Reading JSON

A reader of JSON texts that says where and why a text is no JSON. Each production takes the rest of
the text and hands back what is left of it, and a fault keeps the rest of the text at the place where
it was found, so that its position is the length of what came before.

* Besides the standard literals, `NaN`, `Infinity` and `-Infinity` are numbers.
* Of equal names in one object the last value counts.
* An integer may have 4300 digits, and no more.
-/

namespace DeclarationFetch.Json

inductive Reason where
  | value
  | propertyName
  | colon
  | comma
  | extraData
  | unterminatedString
  | controlCharacter
  | escape
  | unicodeEscape
  | byteOrderMark
  deriving Repr, DecidableEq

def Reason.text : Reason → String
  | value => "Expecting value"
  | propertyName => "Expecting property name enclosed in double quotes"
  | colon => "Expecting ':' delimiter"
  | comma => "Expecting ',' delimiter"
  | extraData => "Extra data"
  | unterminatedString => "Unterminated string starting at"
  | controlCharacter => "Invalid control character at"
  | escape => "Invalid \\escape"
  | unicodeEscape => "Invalid \\uXXXX escape"
  | byteOrderMark => "Unexpected UTF-8 BOM (decode using utf-8-sig)"

/-- What stops the reader, with the rest of the text from the faulty place on. -/
inductive Stop where
  | malformed (reason : Reason) (rest : List Char)
  | integerTooLong
  deriving Repr, DecidableEq

def fail {α : Type} (reason : Reason) (rest : List Char) : Except Stop α :=
  .error (.malformed reason rest)

def isBlank (c : Char) : Bool := c = ' ' || c = '\t' || c = '\n' || c = '\r'

def skipBlanks (cs : List Char) : List Char := cs.dropWhile isBlank

/-! ## Strings -/

/-- The number of the four digits after `\u`; a character has to follow them. -/
def codeUnit? (digits : List Char) : Option Nat :=
  if (digits.drop 4).isEmpty then none else Text.hexNumber? (digits.take 4)

def isHighSurrogate (unit : Nat) : Bool := 0xD800 ≤ unit && unit < 0xDC00

def isLowSurrogate (unit : Nat) : Bool := 0xDC00 ≤ unit && unit < 0xE000

/-- The character of a lone code unit; surrogates have none of their own. -/
def unitChar (unit : Nat) : Char :=
  if 0xD800 ≤ unit ∧ unit < 0xE000 then Char.ofNat 0xFFFD else Char.ofNat unit

def pairChar (high low : Nat) : Char :=
  Char.ofNat (0x10000 + (high - 0xD800) * 0x400 + (low - 0xDC00))

/-- The character after `\u`, and how many characters it takes from the `u` on. A high surrogate takes
the escape after it along if that one is a low surrogate. -/
def unicodeEscape (digits : List Char) : Except (List Char → Stop) (Char × Nat) :=
  match codeUnit? digits with
  | none => .error fun rest => .malformed .unicodeEscape rest
  | some unit =>
      match isHighSurrogate unit, digits.drop 4 with
      | true, '\\' :: 'u' :: more =>
          if (more.drop 4).isEmpty then .ok (unitChar unit, 5)
          else match codeUnit? more with
            | none => .error fun rest => .malformed .unicodeEscape (rest.drop 6)
            | some second =>
                if isLowSurrogate second then .ok (pairChar unit second, 11)
                else .ok (unitChar unit, 5)
      | _, _ => .ok (unitChar unit, 5)

def plainEscape? (c : Char) : Option Char :=
  match c with
  | '"' => some '"'
  | '\\' => some '\\'
  | '/' => some '/'
  | 'b' => some '\x08'
  | 'f' => some '\x0c'
  | 'n' => some '\n'
  | 'r' => some '\r'
  | 't' => some '\t'
  | _ => none

/-- The characters of a string up to its closing quote. `start` is the text from its opening quote on,
`skip` counts characters that the last escape has used already, and `done` holds what was read, the
last character first. -/
def stringTail (start : List Char) : Nat → List Char → List Char → Except Stop (String × List Char)
  | _, _, [] => fail .unterminatedString start
  | skip + 1, done, _ :: rest => stringTail start skip done rest
  | 0, done, c :: rest =>
      if c = '"' then .ok (String.ofList done.reverse, rest)
      else if c = '\\' then
        match rest with
        | [] => fail .unterminatedString start
        | 'u' :: digits =>
            match unicodeEscape digits with
            | .ok (char, used) => stringTail start used (char :: done) rest
            | .error stop => .error (stop rest)
        | e :: _ =>
            match plainEscape? e with
            | some char => stringTail start 1 (char :: done) rest
            | none => fail .escape (c :: rest)
      else if c.toNat < 0x20 then fail .controlCharacter (c :: rest)
      else stringTail start 0 (c :: done) rest

/-- A string whose opening quote is the first character. -/
def string (cs : List Char) : Except Stop (String × List Char) := stringTail cs 0 [] (cs.drop 1)

/-! ## Numbers -/

def digitsOf (cs : List Char) : List Char × List Char := cs.span Char.isDigit

/-- The digits of the whole part: a leading zero stands alone. -/
def wholePart? (cs : List Char) : Option (List Char × List Char) :=
  match cs with
  | '0' :: rest => some (['0'], rest)
  | c :: _ => if c.isDigit then some (digitsOf cs) else none
  | [] => none

/-- A point with at least one digit after it. -/
def fractionPart? (cs : List Char) : Option (List Char × List Char) :=
  match cs with
  | '.' :: rest => if (digitsOf rest).1.isEmpty then none else some (digitsOf rest)
  | _ => none

/-- An exponent mark, an optional sign and at least one digit. -/
def exponentPart? (cs : List Char) : Option (Int × List Char) :=
  match cs with
  | c :: rest =>
      if c = 'e' ∨ c = 'E' then
        let signed := match rest with
          | '-' :: digits => (true, digits)
          | '+' :: digits => (false, digits)
          | _ => (false, rest)
        let parts := digitsOf signed.2
        if parts.1.isEmpty then none
        else
          let size : Int := Decimal.natOfDigits parts.1
          some (if signed.1 then -size else size, parts.2)
      else none
  | [] => none

def unsigned (negative : Bool) (start cs : List Char) : Except Stop (Value × List Char) :=
  match wholePart? cs with
  | none => fail .value start
  | some (whole, afterWhole) =>
      let fraction := fractionPart? afterWhole
      let afterFraction := (fraction.map Prod.snd).getD afterWhole
      let exponent := exponentPart? afterFraction
      match fraction, exponent with
      | none, none =>
          if Decimal.mostIntegerDigits < whole.length then .error .integerTooLong
          else
            let size : Int := Decimal.natOfDigits whole
            .ok (.int (if negative then -size else size), afterWhole)
      | _, _ =>
          let places := (fraction.map Prod.fst).getD []
          let power := (exponent.map Prod.fst).getD 0
          .ok (.float (Decimal.toDouble negative (Decimal.natOfDigits (whole ++ places))
            (power - places.length)), (exponent.map Prod.snd).getD afterFraction)

def number (cs : List Char) : Except Stop (Value × List Char) :=
  match cs with
  | '-' :: rest => unsigned true cs rest
  | _ => unsigned false cs cs

/-! ## Literals -/

def literals : List (List Char × Value) := [
  ("null".toList, .null), ("true".toList, .bool true), ("false".toList, .bool false),
  ("NaN".toList, .float (.nan false)), ("Infinity".toList, .float (.infinite false)),
  ("-Infinity".toList, .float (.infinite true))]

def literal? (cs : List Char) : Option (Value × List Char) :=
  literals.findSome? fun entry =>
    if entry.1.isPrefixOf cs then some (entry.2, cs.drop entry.1.length) else none

/-! ## Values -/

mutual
/-- One value. The number bounds the depth of the calls; a character of the text accounts for two of
them at most. -/
def value : Nat → List Char → Except Stop (Value × List Char)
  | 0, cs => fail .value cs
  | fuel + 1, cs =>
      match cs with
      | '"' :: _ => do
          let (s, rest) ← string cs
          .ok (.text s, rest)
      | '\x7b' :: rest =>
          match skipBlanks rest with
          | '\x7d' :: after => .ok (.map [], after)
          | inside => do
              let (entries, after) ← members fuel inside
              .ok (Value.ofEntries entries, after)
      | '[' :: rest =>
          match skipBlanks rest with
          | ']' :: after => .ok (.list [], after)
          | inside => do
              let (values, after) ← items fuel inside
              .ok (.list values, after)
      | _ =>
          match literal? cs with
          | some found => .ok found
          | none => number cs

/-- The values of a list that is not empty, with its closing bracket. -/
def items : Nat → List Char → Except Stop (List Value × List Char)
  | 0, cs => fail .value cs
  | fuel + 1, cs => do
      let (first, rest) ← value fuel cs
      match skipBlanks rest with
      | ']' :: after => .ok ([first], after)
      | ',' :: more => do
          let (others, after) ← items fuel (skipBlanks more)
          .ok (first :: others, after)
      | other => fail .comma other

/-- The members of an object that is not empty, with its closing brace. -/
def members : Nat → List Char → Except Stop (List (Value × Value) × List Char)
  | 0, cs => fail .value cs
  | fuel + 1, cs =>
      match cs with
      | '"' :: _ => do
          let (name, afterName) ← string cs
          match skipBlanks afterName with
          | ':' :: rest => do
              let (first, afterValue) ← value fuel (skipBlanks rest)
              match skipBlanks afterValue with
              | '\x7d' :: after => .ok ([(.text name, first)], after)
              | ',' :: more => do
                  let (others, after) ← members fuel (skipBlanks more)
                  .ok ((.text name, first) :: others, after)
              | other => fail .comma other
          | other => fail .colon other
      | _ => fail .propertyName cs
end

def document (cs : List Char) : Except Stop Value :=
  match cs with
  | '\uFEFF' :: _ => fail .byteOrderMark cs
  | _ => do
      let (v, rest) ← value (2 * cs.length + 2) (skipBlanks cs)
      match skipBlanks rest with
      | [] => .ok v
      | extra => fail .extraData extra

/-! ## Positions -/

/-- A fault of a text, with its line and column from one and its offset from zero. -/
inductive Fault where
  | malformed (reason : Reason) (line column offset : Nat)
  | integerTooLong
  deriving Repr, DecidableEq

def Stop.locate (text : List Char) : Stop → Fault
  | malformed reason rest =>
      let before := text.take (text.length - rest.length)
      let column := (before.reverse.takeWhile (· ≠ '\n')).length + 1
      .malformed reason (before.count '\n' + 1) column before.length
  | integerTooLong => .integerTooLong

def Fault.message : Fault → String
  | malformed reason line column offset =>
      s!"{reason.text}: line {line} column {column} (char {offset})"
  | integerTooLong => "Integer literal too long"

def read (text : String) : Except Fault Value :=
  (document text.toList).mapError (Stop.locate text.toList)

end DeclarationFetch.Json
