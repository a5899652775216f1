import DeclarationFetch.Text.Basic

/-!
# Slash-separated paths

Joining, normal forms and directories of paths whose parts are separated by slashes.

* `.` and empty parts of a path are dropped, and `..` takes the part before it away.
* Of a path that starts with exactly two slashes both are kept; of any other absolute path, one.
* A slash at the end of joined segments is kept.
-/

namespace DeclarationFetch.Path

def here : List Char := ['.']

def up : List Char := ['.', '.']

def parts (path : List Char) : List (List Char) := path.splitOn '/'

def unparts (parts : List (List Char)) : List Char := ['/'].intercalate parts

/-- One more part after those on the stack, the latest of which is on top. -/
def push (absolute : Bool) (stack : List (List Char)) (part : List Char) : List (List Char) :=
  if part = [] ∨ part = here then stack
  else if part = up then
    match stack with
    | [] => if absolute then [] else [up]
    | top :: below => if top = up then up :: stack else below
  else part :: stack

def reduce (absolute : Bool) (parts : List (List Char)) : List (List Char) :=
  (parts.foldl (push absolute) []).reverse

/-- The slashes at the start of the normal form. -/
def root (path : List Char) : List Char :=
  match path with
  | '/' :: '/' :: '/' :: _ => ['/']
  | '/' :: '/' :: _ => ['/', '/']
  | '/' :: _ => ['/']
  | _ => []

def normalizeChars (path : List Char) : List Char :=
  let lead := root path
  let normal := lead ++ unparts (reduce (!lead.isEmpty) (parts path))
  if normal = [] then here else normal

def endsInSlash (path : List Char) : Bool := path.getLast? = some '/'

def joinChars (segments : List (List Char)) : List Char :=
  let joined := unparts (segments.filter (· ≠ []))
  if joined = [] then here
  else
    let normal := normalizeChars joined
    if endsInSlash joined && !endsInSlash normal then normal ++ ['/'] else normal

/-- Empty segments are left out, and joining nothing gives `.`. -/
def join (segments : List String) : String :=
  String.ofList (joinChars (segments.map String.toList))

/-- What stands before the last slash, without the slashes at its end unless it has nothing else. -/
def parentChars (path : List Char) : List Char :=
  let head := (path.reverse.dropWhile (· ≠ '/')).reverse
  if head.all (· = '/') then head else Text.trimRight '/' head

/-- The directory part of a path, `.` when there is none. Slashes at the end of the path do not
count. -/
def dirname (path : String) : String :=
  let parent := parentChars (Text.trimRight '/' path.toList)
  if parent = [] then "." else String.ofList parent

def stripDotSlash (path : String) : String :=
  match path.toList with
  | '.' :: '/' :: rest => String.ofList rest
  | _ => path

end DeclarationFetch.Path
