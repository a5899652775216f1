import DeclarationFetch.Digest.Sha256
import DeclarationFetch.FileTree
import DeclarationFetch.Json.Reader
import DeclarationFetch.Json.Writer
import DeclarationFetch.Text.Alphanumeric

/-!
# Caches on disk

A cache whose entries are files below one directory: a directory for each package version and in it a
file for each key, named by the key's digest. An entry holds its key along with the content. An entry
for another key is no entry, and one that cannot be read as an entry is removed.
-/

namespace DeclarationFetch

structure DiskCache where
  directory : Route
  deriving Repr, DecidableEq

namespace DiskCache

inductive Fault where
  | file (fault : FileFault)
  | integerTooLong
  deriving Repr, DecidableEq

/-! ## Entries -/

def packageOf (key : String) : String :=
  let parts := Path.parts key.toList
  let inScope := key.toList.head? = some '@' && 1 < parts.length
  String.ofList (Path.unparts (parts.take (if inScope then 2 else 1)))

def isPlain (c : Char) : Bool := Text.isAlphanumeric c || c ∈ ['-', '_', '.', '@']

def directoryName (key : String) : String :=
  String.ofList ((packageOf key).toList.map fun c => if isPlain c then c else '+')

/-- The first twenty-four hexadecimal digits of the key's digest. -/
def digest (key : String) : String :=
  String.ofList (((Digest.sha256 (Text.Utf8.encode key)).take 12).flatMap fun b => Text.hex 2 b.toNat)

/-- The names from the cache directory to the entry of a key. -/
def entryRoute (key : String) : Route :=
  Location.namesOf (directoryName key) ++ [digest key ++ ".json"]

def entryPath (key : String) : String := Path.join (entryRoute key)

def entry (c : DiskCache) (key : String) : Route := c.directory ++ entryRoute key

def entryText (key content : String) : String :=
  Json.write (.object [("key", .text key), ("content", .text content)])

/-- What the text of a file says: nothing if it is no entry, else its key and its content. -/
def readEntry (text : String) : Except Fault (Option (Value × Value)) :=
  match Json.read text with
  | .ok value =>
      match value.field? "key", value.field? "content" with
      | some key, some content => .ok (some (key, content))
      | _, _ => .ok none
  | .error .integerTooLong => .error .integerTooLong
  | .error (.malformed _ _ _ _) => .ok none

/-! ## Operations -/

def onFiles {α : Type} (r : Except FileFault α) : Except Fault α := r.mapError .file

def openAt (directory : Route) (t : FileTree) : Except Fault DiskCache × FileTree :=
  let (result, t) := t.makeAll directory
  ((onFiles result).map fun _ => ⟨directory⟩, t)

/-- The content for a key, null if there is none, and the tree without an entry that is unreadable. -/
def get (c : DiskCache) (t : FileTree) (key : String) : Except Fault (Value × FileTree) := do
  if ← onFiles (t.isFile (c.entry key)) then
    let text ← onFiles (t.read (c.entry key))
    match ← readEntry text with
    | some (stored, content) =>
        match stored with
        | .text k => .ok (if k = key then content else .null, t)
        | _ => .ok (.null, t)
    | none => do
        let t' ← onFiles (t.remove (c.entry key))
        .ok (.null, t')
  else .ok (.null, t)

def contains (c : DiskCache) (t : FileTree) (key : String) : Except Fault (Bool × FileTree) :=
  (c.get t key).map fun found => (!found.1.isNull, found.2)

def set (c : DiskCache) (t : FileTree) (key content : String) : Except Fault Unit × FileTree :=
  let (result, t) := t.plantAt (c.entry key) (.text (entryText key content))
  (onFiles result, t)

/-- Every directory in the cache directory is removed; files in it stay. -/
def clear (c : DiskCache) (t : FileTree) : Except Fault FileTree := do
  if ← onFiles (t.there c.directory) then
    let l ← onFiles (t.goto c.directory)
    match t.node? l with
    | some .directory =>
        .ok ((t.children l).foldl (fun t child =>
          if child.2 = .directory then t.prune child.1 else t) t)
    | _ => .error (.file .notADirectory)
  else .ok t

end DiskCache

end DeclarationFetch
