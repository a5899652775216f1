import DeclarationFetch.Text.Punycode
import DeclarationFetch.Url.Percent

/-!
# Hosts of URLs

A host is a name or a numeric address. An address of version 6 stands in brackets. A name is written
in small letters, and its labels outside ASCII in punycode.
-/

namespace DeclarationFetch.Url

inductive HostFault where
  | address4
  | address6
  | name
  deriving Repr, DecidableEq

/-! ## Numeric addresses -/

/-- Whether the text consists of four runs of digits with any one character between two of them, told by
the places at which a reading of it can stand: in front of the run `n` at `2 * n`, and in it at
`2 * n + 1`. -/
def isNumeric (cs : List Char) : Bool :=
  (cs.foldl (fun places c => (places.flatMap fun place =>
    let digit := if c.isDigit then [place / 2 * 2 + 1] else []
    if place % 2 = 1 ∧ place < 7 then (place + 1) :: digit else digit).eraseDups) [0]).contains 7

def isOctet (cs : List Char) : Bool :=
  cs.all Char.isDigit && 0 < cs.length && cs.length ≤ 3 && (cs.length = 1 || cs.head? ≠ some '0') &&
    (cs.foldl (fun n c => 10 * n + (c.toNat - 48)) 0) ≤ 255

def isAddress4 (cs : List Char) : Bool :=
  let parts := cs.splitOn '.'
  parts.length = 4 && parts.all isOctet

def isGroup (cs : List Char) : Bool :=
  0 < cs.length && cs.length ≤ 4 && cs.all fun c => (Text.hexValue? c).isSome

/-- Eight groups, of which a run may be left out between two colons in a row. -/
def areGroups (parts : List (List Char)) : Bool :=
  let gap := ((parts.drop 1).dropLast).idxOf [] + 1
  if gap + 1 < parts.length then
    let shown (groups : List (List Char)) := if groups = [[]] then [] else groups
    let groups := shown (parts.take gap) ++ shown (parts.drop (gap + 1))
    groups.length < 8 && groups.all isGroup
  else parts.length = 8 && parts.all isGroup

/-- The groups of an address whose last part may be an address of version 4, which counts as two. -/
def isAddress6 (cs : List Char) : Bool :=
  let (address, scope) := cs.span (· ≠ '%')
  let parts := address.splitOn ':'
  let zoned := scope = [] || (scope ≠ ['%'] && !(scope.drop 1).contains '%')
  let (groups, tailed) := match parts.getLast? with
    | some last =>
        if last.contains '.' then (parts.dropLast ++ [['0'], ['0']], isAddress4 last) else (parts, true)
    | none => (parts, true)
  zoned && tailed && 3 ≤ parts.length && groups.length ≤ 9 && areGroups groups && !cs.contains '/'

/-! ## Names -/

def isDot (c : Char) : Bool :=
  c = '.' || c = Char.ofNat 0x3002 || c = Char.ofNat 0xFF0E || c = Char.ofNat 0xFF61

/-- A label outside ASCII is marked and written in punycode. -/
def label (cs : List Char) : List Char :=
  if cs.all fun c => c.toNat < 0x80 then cs else "xn--".toList ++ Text.Punycode.encode cs

def asciiName? (cs : List Char) : Option (List Char) :=
  let labels := cs.splitOnP isDot
  let inner := if labels.getLast? = some [] then labels.dropLast else labels
  let written := labels.map label
  if inner.isEmpty || inner.contains [] || (written.any fun l => 63 < l.length) then none
  else some (['.'].intercalate written)

/-- A host as a URL writes it, an address of version 6 without its brackets. -/
def readHost (cs : List Char) : Except HostFault (List Char) :=
  if isNumeric cs then if isAddress4 cs then .ok cs else .error .address4
  else if cs.head? = some '[' ∧ cs.getLast? = some ']' ∧ 1 < cs.length then
    let inner := (cs.drop 1).dropLast
    if isAddress6 inner then .ok inner else .error .address6
  else
    let small := cs.map Char.toLower
    if cs.all fun c => c.toNat < 0x80 then .ok (encodeWhere inHost small)
    else match asciiName? small with
      | some name => .ok name
      | none => .error .name

def bracketed (host : List Char) : List Char :=
  if host.contains ':' then '[' :: host ++ [']'] else host

end DeclarationFetch.Url
