import DeclarationFetch.Url

/-!
# References

Where a reference leads to from a URL: what it leaves out at its start is taken over.
-/

namespace DeclarationFetch.Url

/-- The schemes whose references take over what they leave out. -/
def hierarchical : List String :=
  ["ftp", "http", "gopher", "nntp", "imap", "wais", "file", "https", "shttp", "mms", "prospero", "rtsp",
    "rtsps", "rtspu", "sftp", "svn", "svn+ssh", "ws", "wss"]

/-- The last part of a path may end in parameters after a semicolon. -/
def cutParameters (path : List Char) : List Char × List Char :=
  let (last, lead) := path.reverse.span (· ≠ '/')
  let (name, parameters) := last.reverse.span (· ≠ ';')
  (lead.reverse ++ name, parameters)

/-- The parts of a path from the place of another one, without parts that are empty inside. -/
def partsFrom (base path : List Char) : List (List Char) :=
  let parts := (Path.parts base).dropLast ++ Path.parts path
  (parts.take 1) ++ ((parts.drop 1).dropLast.filter (· ≠ [])) ++ (parts.drop 1).getLast?.toList

/-- A path without dot parts. Two dots at the root lead nowhere. -/
def resolve (parts : List (List Char)) : List Char :=
  let kept := (parts.foldl (fun stack part =>
    if part = Path.up then stack.drop 1 else if part = Path.here then stack else part :: stack) []).reverse
  let closes := parts.getLast?.any fun part => part = Path.up || part = Path.here
  let path := Path.unparts (if closes then kept ++ [[]] else kept)
  if path.head? = some '/' then path else '/' :: path

def mergePath (base path : List Char) : List Char :=
  let (path, parameters) := cutParameters path
  resolve (if path.head? = some '/' then Path.parts path else partsFrom base path) ++ parameters

def full? (part : Option (List Char)) : Option (List Char) := part.filter (· ≠ [])

/-- The text of a reference as it is seen from a URL. A query or a fragment that is empty is none. -/
def join (base : Url) (reference : List Char) : List Char :=
  let (cs, fragment) := cut '#' reference
  let (cs, query) := cut '?' cs
  let (scheme, cs) := cutScheme cs
  let (authority, path) := cutAuthority cs
  let foreign := scheme ≠ [] && scheme.map Char.toLower ≠ base.scheme
  if reference = [] then base.text.toList
  else if foreign || !hierarchical.contains (String.ofList base.scheme) then reference
  else if authority ≠ [] then assemble base.scheme authority path (full? query) (full? fragment)
  else if path = [] then
    assemble base.scheme base.authority base.path ((full? query).or (full? base.query)) (full? fragment)
  else
    assemble base.scheme base.authority (mergePath base.path path) (full? query) (full? fragment)

/-! ## Requests -/

/-- The URL that is asked for. Of one that does not say by itself where it leads, the path and the query
are. -/
def request (address : String) : Except Fault Url :=
  (read address).map fun u =>
    if u.isAbsolute then u else { path := '/' :: u.path.dropWhile (· = '/'), query := u.query }

/-- Why there is no way on. -/
inductive Detour where
  /-- What was given to go on to is no URL. -/
  | unreadable (fault : Fault)
  /-- What was given does not go together with the URL of the request. -/
  | misfit (fault : Fault)
  deriving Repr, DecidableEq

/-- Where a request is sent on to. A scheme without a host keeps the host, and a fragment stays unless
there is a new one. -/
def redirect (request : Url) (location : String) : Except Detour Url := do
  let target ← (read location).mapError .unreadable
  let target ← if target.scheme ≠ [] ∧ target.host = [] then
      (target.withHost request.host).mapError .misfit
    else .ok target
  let target ← if target.isAbsolute then .ok target
    else (read (String.ofList (request.join target.text.toList))).mapError .misfit
  match full? request.fragment, full? target.fragment with
  | some fragment, none => (target.withFragment (decode fragment)).mapError .misfit
  | _, _ => .ok target

end DeclarationFetch.Url
