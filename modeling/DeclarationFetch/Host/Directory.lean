import DeclarationFetch.FileTree

/-!
# Hosts on disk

Declaration files below a directory. A path that leads out of the directory is refused, both for
reading and for writing.
-/

namespace DeclarationFetch

structure DirectoryHost where
  root : Location
  deriving Repr, DecidableEq

namespace DirectoryHost

inductive Fault where
  | refused (root : Location) (path : String)
  | file (fault : FileFault)
  deriving Repr, DecidableEq

def refusal (root : Location) (path : String) : String :=
  s!"Refusing to write outside {root.text}: {path}"

/-- The place of a path; slashes at its start do not count. -/
def place (h : DirectoryHost) (path : String) : Except Fault Location :=
  let l := h.root.resolve (String.ofList (path.toList.dropWhile (· = '/')))
  if l.isBelow h.root then .ok l else .error (.refused h.root path)

def get (h : DirectoryHost) (t : FileTree) (path : String) : Except Fault (Option String) := do
  let l ← h.place path
  if ← (t.isFile l.names).mapError .file then
    ((t.read l.names).mapError .file).map some
  else .ok none

/-- Writes a file. The directories that were made for it stay when it cannot be written. -/
def set (h : DirectoryHost) (t : FileTree) (path content : String) : Except Fault Unit × FileTree :=
  match h.place path with
  | .ok l =>
      let (result, t) := t.plant l (.text content)
      (result.mapError .file, t)
  | .error fault => (.error fault, t)

/-- Makes the directories for a file whose content is no text, and goes no further. -/
def prepare (h : DirectoryHost) (t : FileTree) (path : String) : Except Fault Unit × FileTree :=
  match h.place path with
  | .ok l =>
      let (result, t) := t.makeAll l.parent.names
      (result.mapError .file, t)
  | .error fault => (.error fault, t)

/-- The paths of all files, in the order of their texts. -/
def list (h : DirectoryHost) (t : FileTree) : List String :=
  Text.sort (((t.filesBelow h.root).map Prod.fst).filter (· ≠ ""))

end DirectoryHost

end DeclarationFetch
