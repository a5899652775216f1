/-!
# Base64

Bytes as text, six bits a character. Reading passes over characters outside the alphabet and stops at
the padding that completes a group of four.
-/

namespace DeclarationFetch.Text.Base64

def digit? (c : Char) : Option Nat :=
  let n := c.toNat
  if 'A' ≤ c ∧ c ≤ 'Z' then some (n - 65)
  else if 'a' ≤ c ∧ c ≤ 'z' then some (n - 71)
  else if '0' ≤ c ∧ c ≤ '9' then some (n + 4)
  else if c = '+' then some 62
  else if c = '/' then some 63
  else none

/-- The bytes from a place within a group of four on, with the bits left over from the character before
and the number of paddings since. None if the last group is not complete. -/
def bytesFrom? (place left paddings : Nat) : List Char → Option (List UInt8)
  | [] => if place = 0 then some [] else none
  | '=' :: rest =>
      if 2 ≤ place ∧ 3 ≤ place + paddings then some []
      else bytesFrom? place left (if 2 ≤ place then paddings + 1 else paddings) rest
  | c :: rest =>
      match digit? c with
      | none => bytesFrom? place left paddings rest
      | some d =>
          match place with
          | 0 => bytesFrom? 1 d 0 rest
          | 1 => (bytesFrom? 2 (d % 16) 0 rest).map ((left * 4 + d / 16).toUInt8 :: ·)
          | 2 => (bytesFrom? 3 (d % 4) 0 rest).map ((left * 16 + d / 4).toUInt8 :: ·)
          | _ => (bytesFrom? 0 0 0 rest).map ((left * 64 + d).toUInt8 :: ·)

def bytes? (cs : List Char) : Option (List UInt8) := bytesFrom? 0 0 0 cs

example : bytes? "aG k=".toList = some [104, 105] ∧ bytes? "aGk".toList = none := by decide +kernel

end DeclarationFetch.Text.Base64
