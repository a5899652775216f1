import DeclarationFetch.Value
import DeclarationFetch.Decimal.Shortest
import DeclarationFetch.Text.Quoted

/-!
# Values in messages

How a value reads inside a message. A text on its own stands as it is; inside a list or a mapping it
is quoted.
-/

namespace DeclarationFetch

/-- Doubles from `10 ^ -4` up to but not including `10 ^ 16` are written without an exponent and keep
at least one decimal place. -/
structure NumberStyle where
  leastPlain : Int
  leastScientific : Int

def NumberStyle.message : NumberStyle := ⟨-4, 16⟩

namespace Value

def pointAfter (digits : List Char) (whole : Int) : List Char :=
  if whole ≤ 0 then '0' :: '.' :: (List.replicate (-whole).toNat '0' ++ digits)
  else
    let n := whole.toNat
    if digits.length ≤ n then digits ++ List.replicate (n - digits.length) '0' ++ ['.', '0']
    else digits.take n ++ '.' :: digits.drop n

/-- An exponent has a sign and at least two digits. -/
def exponentText (exponent : Int) : List Char :=
  let digits := Nat.toDigits 10 exponent.natAbs
  'e' :: (if exponent < 0 then '-' else '+') :: (if digits.length < 2 then '0' :: digits else digits)

def decimalText (style : NumberStyle) (d : Decimal.Scaled) : List Char :=
  if d.digits = 0 then ['0', '.', '0']
  else
    let digits := Nat.toDigits 10 d.digits
    let whole := (digits.length : Int) + d.exponent
    let leading := whole - 1
    if style.leastPlain ≤ leading ∧ leading < style.leastScientific then pointAfter digits whole
    else
      let fraction := digits.drop 1
      digits.take 1 ++ (if fraction.isEmpty then [] else '.' :: fraction) ++ exponentText leading

def floatText (style : NumberStyle) (x : Double) : String :=
  match x with
  | .nan _ => "nan"
  | .infinite negative => if negative then "-inf" else "inf"
  | .finite negative units =>
      let (mantissa, exponent) := Double.split units
      String.ofList ((if negative then ['-'] else []) ++
        decimalText style (Decimal.shortest mantissa exponent))

/-- A byte outside the printable ASCII range is written by its number. -/
def byteText (quote : Char) (b : UInt8) : List Char :=
  if b < 0x80 then Text.escapeIn quote (Char.ofNat b.toNat) else '\\' :: 'x' :: Text.hex 2 b.toNat

def bytesText (bytes : List UInt8) : String :=
  let quote := Text.quoteFor (bytes.map fun b => Char.ofNat b.toNat)
  String.ofList ('b' :: quote :: bytes.flatMap (byteText quote) ++ [quote])

/-- The parts of a moment from the year on; zeros at the end of the time are left out. -/
def momentParts (m : Moment) : List Nat :=
  [m.day.year, m.day.month, m.day.day, m.hour, m.minute] ++
    if m.micro ≠ 0 then [m.second, m.micro] else if m.second ≠ 0 then [m.second] else []

/-- How far a clock is ahead, in whole days and in seconds of a day. -/
def aheadText (minutes : Int) : String :=
  if minutes = 0 then "datetime.timezone.utc"
  else
    let days := if minutes < 0 then "days=-1, " else ""
    s!"datetime.timezone(datetime.timedelta({days}seconds={minutes % 1440 * 60}))"

def momentText (m : Moment) : String :=
  let ahead := (m.ahead.map fun minutes => ", tzinfo=" ++ aheadText minutes).getD ""
  "datetime.datetime(" ++ ", ".intercalate ((momentParts m).map toString) ++ ahead ++ ")"

mutual
/-- A value inside a list or a mapping. -/
def inner : Value → String
  | null => "None"
  | bool b => if b then "True" else "False"
  | int n => toString n
  | float x => floatText .message x
  | text s => Text.quoted s
  | bytes b => bytesText b
  | date d => s!"datetime.date({d.year}, {d.month}, {d.day})"
  | moment m => momentText m
  | list items => "[" ++ ", ".intercalate (innerItems items) ++ "]"
  | set [] => "set()"
  | set items => "\x7b" ++ ", ".intercalate (innerItems items) ++ "\x7d"
  | map entries => "\x7b" ++ ", ".intercalate (innerEntries entries) ++ "\x7d"

def innerItems : List Value → List String
  | [] => []
  | item :: rest => inner item :: innerItems rest

def innerEntries : List (Value × Value) → List String
  | [] => []
  | (key, value) :: rest => (inner key ++ ": " ++ inner value) :: innerEntries rest
end

def display : Value → String
  | text s => s
  | date d => d.text
  | moment m => m.textWith " "
  | value => inner value

end Value

end DeclarationFetch
