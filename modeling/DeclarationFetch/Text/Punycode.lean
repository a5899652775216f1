import DeclarationFetch.Text.Basic

/-!
# Punycode

Text in letters, digits and hyphens. What is ASCII stands in front as it is, and each other character is
a number: how many steps of place and code point it lies beyond the one before. A number is written in
digits of base 36 whose thresholds follow the numbers seen so far.
-/

namespace DeclarationFetch.Text.Punycode

/-- The value of a digit: letters come before figures. -/
def digit? (c : Char) : Option Nat :=
  if 'a' ≤ c ∧ c ≤ 'z' then some (c.toNat - 97)
  else if 'A' ≤ c ∧ c ≤ 'Z' then some (c.toNat - 65)
  else if '0' ≤ c ∧ c ≤ '9' then some (c.toNat - 22)
  else none

def digit (n : Nat) : Char := Char.ofNat (if n < 26 then 97 + n else 22 + n)

/-- The values below which the digit at a place ends its number. -/
def threshold (place bias : Nat) : Nat := max 1 (min 26 (36 * (place + 1) - bias))

/-- The bias that a step leads to: `count` characters are known after it. -/
def settle : Nat → Nat → Nat → Nat
  | 0, bias, step => bias + 36 * step / (step + 38)
  | left + 1, bias, step =>
      if 455 < step then settle left (bias + 36) (step / 35) else bias + 36 * step / (step + 38)

def adapt (step count : Nat) (first : Bool) : Nat :=
  let step := if first then step / 700 else step / 2
  let step := step + step / count
  settle step 0 step

/-! ## Writing -/

/-- The digits of a step, the lowest first. -/
def digits (bias : Nat) : Nat → Nat → Nat → List Char
  | 0, _, _ => []
  | left + 1, place, step =>
      let t := threshold place bias
      if step < t then [digit step]
      else digit (t + (step - t) % (36 - t)) :: digits bias left (place + 1) ((step - t) / (36 - t))

structure Writer where
  /-- Steps since the last character that was written. -/
  step : Nat := 0
  bias : Nat := 72
  known : Nat
  basic : Nat
  out : List Char := []

/-- Passes a character of the text while those of one code point are written. -/
def Writer.pass (code : Nat) (w : Writer) (c : Char) : Writer :=
  if c.toNat < code then { w with step := w.step + 1 }
  else if c.toNat = code then
    { w with
      step := 0
      bias := adapt w.step (w.known + 1) (w.known = w.basic)
      known := w.known + 1
      out := w.out ++ digits w.bias (w.step + 1) 0 w.step }
  else w

/-- Writes the characters of each of these code points, which increase from `next` on. -/
def writeAll (text : List Char) : Nat → List Nat → Writer → Writer
  | _, [], w => w
  | next, code :: codes, w =>
      let w := { w with step := w.step + (code - next) * (w.known + 1) }
      let w := text.foldl (Writer.pass code) w
      writeAll text (code + 1) codes { w with step := w.step + 1 }

def encode (text : List Char) : List Char :=
  let plain := text.filter fun c => c.toNat < 0x80
  let codes := ((text.map Char.toNat).filter (0x80 ≤ ·)).mergeSort.eraseDups
  let w := writeAll text 0x80 codes { known := plain.length, basic := plain.length }
  plain ++ (if plain = [] then [] else ['-']) ++ w.out

/-! ## Reading -/

/-- A number at the start of a text, and what follows it. -/
def step? (bias : Nat) : Nat → Nat → Nat → List Char → Option (Nat × List Char)
  | _, _, _, [] => none
  | place, weight, sum, c :: rest => do
      let d ← digit? c
      let sum := sum + d * weight
      let t := threshold place bias
      if d < t then return (sum, rest) else step? bias (place + 1) (weight * (36 - t)) sum rest

/-- Inserts the characters of the steps in a text. A step that breaks off ends the reading, and one that
leads beyond the last code point goes on from a question mark. -/
def insertAll : Nat → Nat → Nat → Nat → Bool → List Char → List Char → List Char
  | 0, _, _, _, _, text, _ => text
  | left + 1, code, place, bias, first, text, steps =>
      match step? bias 0 1 0 steps with
      | none => text
      | some (step, steps) =>
          let count := text.length + 1
          let code := code + (place + step) / count
          let place := (place + step) % count
          let code := if code < 0x110000 then code else '?'.toNat
          insertAll left code (place + 1) (adapt step count first) false
            (text.insertIdx place (Char.ofNat code)) steps

/-- The text before the last hyphen, with the characters that the digits after it stand for. -/
def decode (written : List Char) : List Char :=
  let (steps, plain) := written.reverse.span (· ≠ '-')
  insertAll steps.length 0x80 0 72 true (plain.drop 1).reverse steps.reverse

example : encode "bücher".toList = "bcher-kva".toList ∧ decode "bcher-kva".toList = "bücher".toList := by
  decide +kernel

end DeclarationFetch.Text.Punycode
