import DeclarationFetch.Cache.Registry
import DeclarationFetch.Host.Memory
import DeclarationFetch.Resolution.Walk

/-!
# Workspaces

Everything that passes leave their traces in: caches and hosts in memory, the files on disk, and the
reports that were made. Passes refer to their cache and their host, so that several of them may share
one.
-/

namespace DeclarationFetch

inductive Report where
  | update (u : Update)
  | error (message : String)
  | versions (pins : Pins)

inductive HostRef where
  | memory (id : Nat)
  | directory (host : DirectoryHost)
  deriving Repr, DecidableEq

structure Workspace where
  shelf : CacheShelf := {}
  hosts : List MemoryHost := []
  tree : FileTree := {}
  reports : List Report := []
  /-- The paths at which hosts were given a file, the latest first. -/
  placed : List (HostRef × String) := []

namespace Workspace

instance : Inhabited Workspace := ⟨{}⟩

/-! ## Hosts in memory -/

def memoryHost (w : Workspace) (id : Nat) : MemoryHost := w.hosts.getD id {}

def setMemoryHost (w : Workspace) (id : Nat) (h : MemoryHost) : Workspace :=
  { w with hosts := w.hosts.set id h }

theorem memoryHost_setMemoryHost {w : Workspace} {id : Nat} (hid : id < w.hosts.length)
    (h : MemoryHost) : (w.setMemoryHost id h).memoryHost id = h := by
  simp [memoryHost, setMemoryHost, List.getD_eq_getElem?_getD, hid]

@[simp] theorem length_hosts_setMemoryHost (w : Workspace) (id : Nat) (h : MemoryHost) :
    (w.setMemoryHost id h).hosts.length = w.hosts.length := List.length_set

def addMemoryHost (w : Workspace) (h : MemoryHost) : Nat × Workspace :=
  (w.hosts.length, { w with hosts := w.hosts ++ [h] })

def addMemoryCache (w : Workspace) (c : MemoryCache) : CacheRef × Workspace :=
  let (id, shelf) := w.shelf.add c
  (.memory id, { w with shelf := shelf })

/-! ## Caches -/

def onDisk {α : Type} (w : Workspace) (r : Except DiskCache.Fault (α × FileTree)) :
    Except Fault α × Workspace :=
  match r with
  | .ok (a, tree) => (.ok a, { w with tree := tree })
  | .error fault => (.error (.cache fault), w)

/-- What a cache has for a key. On disk this may be something else than a text. -/
def cached (ref : CacheRef) (key : String) (w : Workspace) :
    Except Fault (Option Value) × Workspace :=
  match ref with
  | .memory id => (.ok (((w.shelf.get id).get? key).map .text), w)
  | .disk cache =>
      let (result, w) := w.onDisk (cache.get w.tree key)
      (result.map fun
        | .null => none
        | value => some value, w)

def isCached (ref : CacheRef) (key : String) (w : Workspace) : Except Fault Bool × Workspace :=
  let (result, w) := cached ref key w
  (result.map Option.isSome, w)

def store (ref : CacheRef) (key content : String) (w : Workspace) : Except Fault Unit × Workspace :=
  match ref with
  | .memory id => (.ok (), { w with shelf := w.shelf.set id ((w.shelf.get id).set key content) })
  | .disk cache =>
      let (result, tree) := cache.set w.tree key content
      (result.mapError .cache, { w with tree })

def clearCache (ref : CacheRef) (w : Workspace) : Except Fault Unit × Workspace :=
  match ref with
  | .memory id => (.ok (), { w with shelf := w.shelf.clear id })
  | .disk cache => w.onDisk ((cache.clear w.tree).map fun tree => ((), tree))

/-- Empties every registered cache, up to the first that cannot be emptied. -/
def clearAll (r : CacheRegistry) (w : Workspace) : Except Fault Unit × Workspace :=
  r.names.entries.foldl (fun (result, w) entry =>
    match result with
    | .ok _ => clearCache entry.2 w
    | .error fault => (.error fault, w)) (.ok (), w)

/-! ## Hosts -/

def hosted (ref : HostRef) (path : String) (w : Workspace) :
    Except Fault (Option String) × Workspace :=
  match ref with
  | .memory id => (.ok ((w.memoryHost id).get? path), w)
  | .directory host => ((host.get w.tree path).mapError .host, w)

/-- Puts down that a host was given a file, if it took it. -/
def notePlaced (w : Workspace) (ref : HostRef) (path : String) (taken : Bool) : Workspace :=
  { w with placed := if taken then (ref, path) :: w.placed else w.placed }

@[simp] theorem hosts_notePlaced (w : Workspace) (ref : HostRef) (path : String) (taken : Bool) :
    (w.notePlaced ref path taken).hosts = w.hosts := rfl

@[simp] theorem tree_notePlaced (w : Workspace) (ref : HostRef) (path : String) (taken : Bool) :
    (w.notePlaced ref path taken).tree = w.tree := rfl

def putFile (ref : HostRef) (path content : String) (w : Workspace) :
    Except Fault Unit × Workspace :=
  match ref with
  | .memory id =>
      (.ok (), (w.setMemoryHost id ((w.memoryHost id).set path content)).notePlaced ref path true)
  | .directory host =>
      let (result, tree) := host.set w.tree path content
      (result.mapError .host, { w with tree }.notePlaced ref path result.isOk)

/-- Makes room for a file whose content is no text. -/
def makeRoom (ref : HostRef) (path : String) (w : Workspace) : Except Fault Unit × Workspace :=
  match ref with
  | .memory _ => (.ok (), w)
  | .directory host =>
      let (result, tree) := host.prepare w.tree path
      (result.mapError .host, { w with tree })

/-! ## Contents -/

def hostFiles (w : Workspace) : HostRef → List (String × Content)
  | .memory id => (w.memoryHost id).files.entries.map fun entry => (entry.1, .text entry.2)
  | .directory host => w.tree.filesIn host.root

/-- The entries of a cache, on disk by the names of their files. -/
def cacheFiles (w : Workspace) : CacheRef → List (String × Content)
  | .memory id => (w.shelf.get id).contents.entries.map fun entry => (entry.1, .text entry.2)
  | .disk cache => w.tree.filesIn ⟨cache.directory⟩

/-! ## Reports -/

def tell (r : Report) (w : Workspace) : Except Fault Unit × Workspace :=
  (.ok (), { w with reports := r :: w.reports })

def chronicle (w : Workspace) : List Report := w.reports.reverse

def forgetReports (w : Workspace) : Workspace := { w with reports := [] }

def collaborators (cache : CacheRef) (host : HostRef) : Resolution.Collaborators Workspace where
  cached := cached cache
  isCached := isCached cache
  store := store cache
  hosted := hosted host
  host := putFile host
  makeRoom := makeRoom host
  onUpdate u := tell (.update u)
  onVersions pins := tell (.versions pins)
  onError message := tell (.error message)

end Workspace

end DeclarationFetch
