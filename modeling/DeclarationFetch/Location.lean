import DeclarationFetch.Path

/-!
# Locations

Absolute places in a file system, as the names on the way from its root. A path is resolved against a
location name by name: `.` stays, `..` goes back by one name and stays at the root.
-/

namespace DeclarationFetch

structure Location where
  names : List String
  deriving Repr, DecidableEq

namespace Location

def root : Location := ⟨[]⟩

def child (l : Location) (name : String) : Location := ⟨l.names ++ [name]⟩

/-- The location that this one is in; the root is in itself. -/
def parent (l : Location) : Location := ⟨l.names.dropLast⟩

/-- The last name, empty at the root. -/
def name (l : Location) : String := l.names.getLast?.getD ""

def text (l : Location) : String := "/" ++ "/".intercalate l.names

/-- The names of a path, without empty ones and `.`. -/
def namesOf (path : String) : List String :=
  ((Path.parts path.toList).filter fun part => part ≠ [] ∧ part ≠ Path.here).map String.ofList

def isAbsolute (path : String) : Bool := path.toList.head? = some '/'

def step (l : Location) (name : String) : Location := if name = ".." then l.parent else l.child name

def resolve (l : Location) (path : String) : Location :=
  (namesOf path).foldl step (if isAbsolute path then root else l)

def isBelow (l base : Location) : Bool := base.names.isPrefixOf l.names

/-- The way down from a location above, in slash-separated form. -/
def textFrom (base l : Location) : String := "/".intercalate (l.names.drop base.names.length)

/-- A path without empty names and `.`, but with its `..`. -/
def plain (path : String) : String :=
  let lead := match path.toList with
    | '/' :: '/' :: '/' :: _ => "/"
    | '/' :: '/' :: _ => "//"
    | '/' :: _ => "/"
    | _ => ""
  let text := lead ++ "/".intercalate (namesOf path)
  if text = "" then "." else text

end Location

end DeclarationFetch
