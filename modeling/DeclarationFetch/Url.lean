import DeclarationFetch.Decimal.Word
import DeclarationFetch.Path
import DeclarationFetch.Text.Quoted
import DeclarationFetch.Url.Host

/-!
# URLs

A URL by its parts, each as it is written: a scheme, an authority of user, host and number, a path, a
query and a fragment. A URL without a scheme is a reference.

* Reading puts each part into the form in which it is written: capitals in the scheme and in the host
  become small, the usual number of the scheme is left out, and other characters stand behind percent signs.
* A path below a scheme or an authority has no dot parts.
-/

namespace DeclarationFetch

structure Url where
  scheme : List Char := []
  user : List Char := []
  host : List Char := []
  portNumber : Option Int := none
  path : List Char := []
  query : Option (List Char) := none
  fragment : Option (List Char) := none
  deriving Repr, DecidableEq

namespace Url

inductive Fault where
  | tooLong
  | control (c : Char) (place : Nat)
  | host (fault : HostFault) (text : List Char)
  | portNumber (text : List Char)
  /-- A path after an authority starts with no slash. -/
  | joinedPath
  /-- A path starts with two slashes where no authority is. -/
  | emptyAuthority
  | colonFirst
  deriving Repr, DecidableEq

namespace Fault

def message : Fault → String
  | tooLong => "URL too long"
  | control c place =>
      "Invalid non-printable ASCII character in URL, " ++ Text.quoted c.toString ++ " at position " ++
        toString place ++ "."
  | host .address4 text => "Invalid IPv4 address: " ++ Text.quoted (String.ofList text)
  | host .address6 text => "Invalid IPv6 address: " ++ Text.quoted (String.ofList text)
  | host .name text => "Invalid IDNA hostname: " ++ Text.quoted (String.ofList text)
  | portNumber text => "Invalid port: " ++ Text.quoted (String.ofList text)
  | joinedPath => "For absolute URLs, path must be empty or begin with '/'"
  | emptyAuthority => "Relative URLs cannot have a path starting with '//'"
  | colonFirst => "Relative URLs cannot have a path starting with ':'"

end Fault

/-! ## Writing -/

def intText (n : Int) : List Char := (toString n).toList

def authority (u : Url) : List Char :=
  (if u.user = [] then [] else u.user ++ ['@']) ++ bracketed u.host ++
    (match u.portNumber with
      | some number => ':' :: intText number
      | none => [])

/-- A text from its five parts with their marks. A scheme or an authority that is empty has no mark. -/
def assemble (scheme authority path : List Char) (query fragment : Option (List Char)) : List Char :=
  (if scheme = [] then [] else scheme ++ [':']) ++
    (if authority = [] then [] else '/' :: '/' :: authority) ++ path ++
    (query.map ('?' :: ·)).getD [] ++ (fragment.map ('#' :: ·)).getD []

def text (u : Url) : String :=
  String.ofList (assemble u.scheme u.authority u.path u.query u.fragment)

/-! ## Parts -/

structure Parts where
  scheme : List Char := []
  user : List Char := []
  host : List Char := []
  portNumber : List Char := []
  path : List Char := []
  query : Option (List Char) := none
  fragment : Option (List Char) := none

def cut (mark : Char) (cs : List Char) : List Char × Option (List Char) :=
  match cs.span (· ≠ mark) with
  | (before, _ :: after) => (before, some after)
  | (before, []) => (before, none)

/-- A scheme, which may be empty before its colon, and what follows it. -/
def cutScheme (cs : List Char) : List Char × List Char :=
  match cs.span fun c => c.isAlphanum || ['+', '-', '.'].contains c with
  | (scheme, ':' :: after) => if scheme.head?.all Char.isAlpha then (scheme, after) else ([], cs)
  | _ => ([], cs)

def cutAuthority (cs : List Char) : List Char × List Char :=
  match cs with
  | '/' :: '/' :: rest => rest.span (· ≠ '/')
  | _ => ([], cs)

def cutUser (cs : List Char) : List Char × List Char :=
  let (last, before) := cs.reverse.span (· ≠ '@')
  ((before.drop 1).reverse, last.reverse)

/-- A host with what follows it; one in brackets reaches up to the last bracket. -/
def cutHost (cs : List Char) : List Char × List Char :=
  let (after, host) := cs.reverse.span (· ≠ ']')
  if cs.head? = some '[' ∧ host ≠ [] then (host.reverse, after.reverse) else cs.span (· ≠ ':')

def Parts.ofText (cs : List Char) : Parts :=
  let (cs, fragment) := cut '#' cs
  let (cs, query) := cut '?' cs
  let (scheme, cs) := cutScheme cs
  let (authority, path) := cutAuthority cs
  let (user, cs) := cutUser authority
  let (host, number) := cutHost cs
  { scheme, user, host, path, query, fragment
    portNumber := if number.head? = some ':' then number.drop 1 else number }

/-! ## Reading -/

/-- The numbers that are left out. -/
def usualPortNumbers : List (List Char × Int) :=
  [("ftp".toList, 21), ("http".toList, 80), ("https".toList, 443), ("ws".toList, 80),
    ("wss".toList, 443)]

def readPortNumber (scheme cs : List Char) : Except Fault (Option Int) :=
  if cs = [] then .ok none
  else match Decimal.wholeWord? (String.ofList cs) with
    | some number => .ok (if usualPortNumbers.contains (scheme, number) then none else some number)
    | none => .error (.portNumber cs)

/-- A dot stays where it is, and two dots go up. -/
def removeDots (path : List Char) : List Char :=
  let parts := Path.parts path
  if parts.contains Path.here || parts.contains Path.up then
    Path.unparts (parts.foldl (fun stack part =>
      if part = Path.here then stack
      else if part = Path.up then (if stack = [[]] then stack else stack.drop 1)
      else part :: stack) []).reverse
  else path

def checkPath (schemed authorized : Bool) (path : List Char) : Except Fault Unit :=
  if authorized ∧ path ≠ [] ∧ path.head? ≠ some '/' then .error .joinedPath
  else if !schemed ∧ !authorized ∧ ['/', '/'].isPrefixOf path then .error .emptyAuthority
  else if !schemed ∧ !authorized ∧ path.head? = some ':' then .error .colonFirst
  else .ok ()

def ofParts (p : Parts) : Except Fault Url := do
  let host ← (readHost p.host).mapError (Fault.host · p.host)
  let portNumber ← readPortNumber p.scheme p.portNumber
  let user := encodeWhere inUser p.user
  let authorized := user ≠ [] ∨ host ≠ [] ∨ portNumber.isSome
  let schemed := p.scheme ≠ []
  checkPath schemed authorized p.path
  let path := if schemed ∨ authorized then removeDots p.path else p.path
  return {
    scheme := p.scheme.map Char.toLower
    user, host, portNumber
    path := encodeWhere inPath path
    query := p.query.map (encodeWhere inQuery)
    fragment := p.fragment.map (encodeWhere inFragment) }

def mostCharacters : Nat := 65536

def isControl (c : Char) : Bool := c.toNat < 0x20 || c.toNat = 0x7F

def checkText (cs : List Char) : Except Fault Unit :=
  if mostCharacters < cs.length then .error .tooLong
  else match cs.find? isControl with
    | some c => .error (.control c (cs.idxOf c))
    | none => .ok ()

def read (s : String) : Except Fault Url := do
  checkText s.toList
  ofParts (.ofText s.toList)

/-! ## Changes -/

def parts (u : Url) : Parts :=
  { scheme := u.scheme
    user := u.user
    host := bracketed u.host
    portNumber := (u.portNumber.map intText).getD []
    path := u.path
    query := u.query
    fragment := u.fragment }

def withHost (u : Url) (host : List Char) : Except Fault Url :=
  ofParts { u.parts with host := bracketed host }

def withFragment (u : Url) (fragment : List Char) : Except Fault Url := do
  checkText fragment
  ofParts { u.parts with fragment := some fragment }

def isAbsolute (u : Url) : Bool := u.scheme ≠ [] && u.host ≠ []

end Url

end DeclarationFetch
