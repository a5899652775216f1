import DeclarationFetch.Location
import DeclarationFetch.Text.Utf8

/-!
# File trees

Files and directories by their locations, and the ways in which an operation on them fails. A route is
a list of names from the root that may hold `..`; it is followed name by name, and all that it passes
through has to be a directory.
-/

namespace DeclarationFetch

inductive Content where
  | text (s : String)
  | bytes (b : List UInt8)
  deriving Repr, DecidableEq

namespace Content

def ofBytes (b : List UInt8) : Content :=
  match Text.Utf8.decode? b with
  | some s => text s
  | none => bytes b

/-- Every line ends in one line feed. -/
def joinLines : List Char → List Char
  | [] => []
  | '\r' :: '\n' :: rest => '\n' :: joinLines rest
  | c :: rest => (if c = '\r' then '\n' else c) :: joinLines rest

/-- The text of a file as it is read, whatever its lines end in. -/
def read? : Content → Option String
  | text s => some (String.ofList (joinLines s.toList))
  | bytes _ => none

end Content

inductive FileFault where
  | notFound
  | notADirectory
  | isADirectory
  | alreadyExists
  | nameTooLong
  | undecodable
  deriving Repr, DecidableEq

inductive Node where
  | file (content : Content)
  | directory
  deriving Repr, DecidableEq

abbrev Route := List String

structure FileTree where
  nodes : List (Location × Node) := []

namespace FileTree

def empty : FileTree := {}

/-! ## Nodes -/

def find : List (Location × Node) → Location → Option Node
  | [], _ => none
  | (place, node) :: rest, l => if place = l then some node else find rest l

/-- The root is always there. -/
def node? (t : FileTree) (l : Location) : Option Node :=
  if l = Location.root then some .directory else find t.nodes l

def put (t : FileTree) (l : Location) (node : Node) : FileTree :=
  ⟨t.nodes.filter (fun entry => entry.1 ≠ l) ++ [(l, node)]⟩

def prune (t : FileTree) (l : Location) : FileTree :=
  ⟨t.nodes.filter fun entry => !entry.1.isBelow l⟩

/-- The files at and below a location, by the way down to them. -/
def filesBelow (t : FileTree) (l : Location) : List (String × Content) :=
  t.nodes.filterMap fun entry =>
    match entry.2 with
    | .file content => if entry.1.isBelow l then some (l.textFrom entry.1, content) else none
    | .directory => none

/-- The files below a location itself, by the way down to them. -/
def filesIn (t : FileTree) (l : Location) : List (String × Content) :=
  (t.filesBelow l).filter fun entry => entry.1 ≠ ""

def children (t : FileTree) (l : Location) : List (Location × Node) :=
  t.nodes.filter fun entry => entry.1.parent = l ∧ entry.1 ≠ Location.root

/-! ## Routes -/

/-- Names of more than 255 bytes are refused. -/
def tooLong (name : String) : Bool := 255 < name.utf8ByteSize

/-- The number of bytes of a route with a slash before each name. -/
def routeSize (route : Route) : Nat :=
  route.foldl (fun bytes name => bytes + name.utf8ByteSize + 1) 0

/-- Routes of more than 4095 bytes are refused. -/
def mostBytes : Nat := 4095

/-- Where a route leads; the last name need not be there. -/
def walk (t : FileTree) (here : Location) : Route → Except FileFault Location
  | [] => .ok here
  | name :: rest =>
      match t.node? here with
      | none => .error .notFound
      | some (.file _) => .error .notADirectory
      | some .directory =>
          if tooLong name then .error .nameTooLong else walk t (here.step name) rest

def goto (t : FileTree) (route : Route) : Except FileFault Location :=
  if mostBytes < routeSize route then .error .nameTooLong else t.walk Location.root route

def status (t : FileTree) (route : Route) : Except FileFault Node := do
  let l ← t.goto route
  match t.node? l with
  | some node => .ok node
  | none => .error .notFound

/-- A route that leads nowhere ends at no node. -/
def status? (t : FileTree) (route : Route) : Except FileFault (Option Node) :=
  match t.status route with
  | .ok node => .ok (some node)
  | .error .notFound => .ok none
  | .error .notADirectory => .ok none
  | .error fault => .error fault

def isFile (t : FileTree) (route : Route) : Except FileFault Bool :=
  (t.status? route).map fun
    | some (.file _) => true
    | _ => false

def isDirectory (t : FileTree) (route : Route) : Except FileFault Bool :=
  (t.status? route).map fun
    | some .directory => true
    | _ => false

def there (t : FileTree) (route : Route) : Except FileFault Bool :=
  (t.status? route).map Option.isSome

/-! ## Operations -/

def content (t : FileTree) (route : Route) : Except FileFault Content := do
  match ← t.status route with
  | .file content => .ok content
  | .directory => .error .isADirectory

def read (t : FileTree) (route : Route) : Except FileFault String := do
  match (← t.content route).read? with
  | some s => .ok s
  | none => .error .undecodable

def write (t : FileTree) (route : Route) (content : Content) : Except FileFault FileTree := do
  let l ← t.goto route
  match t.node? l with
  | some .directory => .error .isADirectory
  | _ => .ok (t.put l (.file content))

def make (t : FileTree) (route : Route) : Except FileFault FileTree := do
  let l ← t.goto route
  match t.node? l with
  | some _ => .error .alreadyExists
  | none => .ok (t.put l .directory)

/-- What comes of an operation that changes the tree, and of the tree also where it fails. -/
abbrev Outcome := Except FileFault Unit × FileTree

/-- The outcome of making a directory that may be there already. -/
def orDirectory (t : FileTree) (route : Route) (made : Except FileFault FileTree) : Outcome :=
  match made with
  | .ok t' => (.ok (), t')
  | .error fault => (do if ← t.isDirectory route then .ok () else .error fault, t)

/-- A directory and all that are missing on the way to it; the route is given from its end. -/
def makeUp (t : FileTree) : Route → Outcome
  | [] => (.ok (), t)
  | name :: above =>
      let route := (name :: above).reverse
      match t.make route with
      | .error .notFound =>
          match t.makeUp above with
          | (.ok _, t') => t'.orDirectory route (t'.make route)
          | failed => failed
      | made => t.orDirectory route made

def makeAll (t : FileTree) (route : Route) : Outcome := t.makeUp route.reverse

/-- A file that is removed need not be there. -/
def remove (t : FileTree) (route : Route) : Except FileFault FileTree := do
  let l ← t.goto route
  match t.node? l with
  | some (.file _) => .ok (t.prune l)
  | some .directory => .error .isADirectory
  | none => .ok t

/-- A file with all the directories that it needs, which stay when the file cannot be written. -/
def plantAt (t : FileTree) (route : Route) (content : Content) : Outcome :=
  match t.makeAll route.dropLast with
  | (.ok _, t) =>
      match t.write route content with
      | .ok t' => (.ok (), t')
      | .error fault => (.error fault, t)
  | failed => failed

def plant (t : FileTree) (l : Location) (content : Content) : Outcome := t.plantAt l.names content

end FileTree

end DeclarationFetch
