import DeclarationFetch.Debouncer
import DeclarationFetch.Editor.Basic
import DeclarationFetch.Resolver
import DeclarationFetch.Source.Basic
import DeclarationFetch.Timers

/-!
# Sessions

A session keeps one editor supplied with declarations. It has a resolver of its own and a debouncer, and
it listens to the editor until it is disposed.

* While a pass is running no other one begins, and changes of the editor are passed over.
* A session is attached to its collaborators once: what the caller gives is used, and what is missing
  is made.
-/

namespace DeclarationFetch

/-- What the callbacks of the application raise when they are told something. -/
abbrev Callbacks := Report → Workspace → Option Fault

namespace Callbacks

def tell (k : Callbacks) (r : Report) (w : Workspace) : Except Fault Unit × Workspace :=
  match k r w with
  | none => Workspace.tell r w
  | some fault => (.error fault, (Workspace.tell r w).2)

def attachTo (k : Callbacks) (c : Resolution.Collaborators Workspace) : Resolution.Collaborators Workspace :=
  { c with
    onUpdate := fun u => k.tell (.update u)
    onVersions := fun pins => k.tell (.versions pins)
    onError := fun message => k.tell (.error message) }

end Callbacks

structure Session where
  editor : Nat
  resolver : Resolver
  source : PackageSource
  /-- Whether the source was made for this session and is closed with it. -/
  ownsSource : Bool
  callbacks : Callbacks := fun _ _ => none
  isResolving : Bool := false
  subscription : Subscription := {}
  debouncer : Debouncer
  /-- The turn in which the timer was armed last. -/
  turn : Nat := 0

namespace Session

instance : Inhabited Session :=
  ⟨{ editor := 0
     resolver := .start {} (.memory 0) (.memory 0)
     source := .shelf
     ownsSource := false
     debouncer := { delay := 0.0 } }⟩

/-- A session listens for as long as it is not disposed. -/
def disposed (s : Session) : Bool := s.subscription.disposed

def options (s : Session) : Options := s.resolver.options

def collaborators (s : Session) : Resolution.Collaborators Workspace :=
  s.callbacks.attachTo s.resolver.collaborators

def setOptions (s : Session) (o : Options) : Session :=
  { s with resolver := { s.resolver with options := o } }

def setPins (s : Session) (pins : Pins) : Session :=
  { s with resolver := { s.resolver with pins } }

end Session

/-- Everything that sessions share, and the sessions themselves. -/
structure World where
  workspace : Workspace := {}
  registry : CacheRegistry := {}
  packages : PackageShelf := {}
  web : Registry.Web := {}
  editors : List Editor := []
  sessions : List Session := []
  now : Instant := .start
  timers : Timers := {}
  turns : Nat := 0
  told : List (Nat × Report) := []

namespace World

instance : Inhabited World := ⟨{}⟩

/-! ## Sessions and editors by number -/

def session (w : World) (id : Nat) : Session := w.sessions.getD id default

def setSession (w : World) (id : Nat) (s : Session) : World :=
  { w with sessions := w.sessions.set id s }

def mapSession (w : World) (id : Nat) (f : Session → Session) : World :=
  w.setSession id (f (w.session id))

def editor (w : World) (id : Nat) : Editor := w.editors.getD id default

def mapEditor (w : World) (id : Nat) (f : Editor → Editor) : World :=
  { w with editors := w.editors.set id (f (w.editor id)) }

def addEditor (w : World) (e : Editor) : Nat × World :=
  (w.editors.length, { w with editors := w.editors ++ [e] })

def editorOf (w : World) (id : Nat) : Editor := w.editor (w.session id).editor

def readEditor (w : World) (id : Nat) : Except Fault String × World :=
  let (result, e) := (w.editorOf id).getText
  (result, w.mapEditor (w.session id).editor fun _ => e)

def refreshEditor (w : World) (id : Nat) : Except Fault Unit × World :=
  let (result, e) := (w.editorOf id).refresh
  (result, w.mapEditor (w.session id).editor fun _ => e)

/-! ## Reports -/

/-- Puts down what was reported as the session's. -/
def gather (w : World) (id : Nat) : World :=
  { w with
    told := w.workspace.reports.map (fun report => (id, report)) ++ w.told
    workspace := w.workspace.forgetReports }

/-- The reports of some of the sessions in their order, and the world without them. -/
def takeReports (w : World) (whose : Nat → Bool) : List Report × World :=
  let (taken, left) := w.told.partition fun entry => whose entry.1
  ((taken.map Prod.snd).reverse, { w with told := left })

/-- Reports to one of the callbacks of the session, if somebody listens to it. -/
def report (w : World) (id : Nat) (listened : Handlers → Bool) (r : Report) : Except Fault Unit × World :=
  let s := w.session id
  if listened s.options.handlers then
    let (result, workspace) := s.callbacks.tell r w.workspace
    (result, { w with workspace }.gather id)
  else (.ok (), w)

def tellUpdate (w : World) (id : Nat) (u : Update) : Except Fault Unit × World :=
  w.report id Handlers.updates (.update u)

def tellVersions (w : World) (id : Nat) (pins : Pins) : Except Fault Unit × World :=
  w.report id Handlers.versions (.versions pins)

/-! ## Timers -/

/-- Puts the timer of a session, as it was armed last, among the timers. -/
def setTimer (w : World) (id : Nat) : World :=
  let s := w.session id
  match s.debouncer.due with
  | some due => { w with timers := w.timers.push ⟨due, id, s.turn⟩ }
  | none => w

/-- Whether a timer is still the one that its session waits for. -/
def isArmed (w : World) (timer : Timer) : Bool :=
  let s := w.session timer.owner
  s.debouncer.pending && s.turn = timer.turn

/-! ## Attaching -/

structure Plan where
  editor : Nat
  options : Options := {}
  host : Option HostRef := none
  cache : Option CacheRef := none
  useRegistry : Bool := false
  source : Option PackageSource := none
  callbacks : Callbacks := fun _ _ => none

/-- A host in memory that holds nothing counts as not given. -/
def isGiven (w : Workspace) : HostRef → Bool
  | .memory id => !(w.memoryHost id).isEmpty
  | .directory _ => true

def attachHost (p : Plan) (w : World) : HostRef × World :=
  match p.host.filter (isGiven w.workspace) with
  | some host => (host, w)
  | none =>
      let (id, workspace) := w.workspace.addMemoryHost { rootUri := p.options.fileRootPath }
      (.memory id, { w with workspace })

/-- A cache in memory that is empty counts as not given to a registry. -/
def isFilled (w : Workspace) : CacheRef → Bool
  | .memory id => !(w.shelf.get id).isEmpty
  | .disk _ => true

/-- The cache for a registry to register: the given one, or else a new one. -/
def cacheToShare (given : Option CacheRef) (w : Workspace) : CacheRef × Workspace :=
  match given.filter (isFilled w) with
  | some cache => (cache, w)
  | none => w.addMemoryCache {}

/-- The cache in use: the shared one if sharing is asked for and there is a registry, else the given
one or a new one. -/
def attachCache (p : Plan) (w : World) : CacheRef × World :=
  if p.options.shareCache && p.useRegistry then
    let (cache, registry, workspace) := w.registry.getOrCreate CacheRegistry.defaultName w.workspace
      (cacheToShare p.cache)
    (cache, { w with registry, workspace })
  else
    match p.cache with
    | some cache => (cache, w)
    | none =>
        let (cache, workspace) := w.workspace.addMemoryCache {}
        (cache, { w with workspace })

def attachSource (p : Plan) : PackageSource × Bool :=
  match p.source with
  | some source => (source, false)
  | none => (.registry (.own Registry.defaultRoot), true)

/-- A new session that listens to its editor, and its number. -/
def attach (p : Plan) (w : World) : Nat × World :=
  let (cache, w) := attachCache p w
  let (host, w) := attachHost p w
  let (source, ownsSource) := attachSource p
  let s : Session := {
    editor := p.editor
    resolver := .start p.options cache host
    source
    ownsSource
    callbacks := p.callbacks
    debouncer := { delay := p.options.debounceDuration } }
  let id := w.sessions.length
  (id, { w with sessions := w.sessions ++ [s] }.mapEditor p.editor (·.listen id))

/-! ## Letting go -/

/-- Disarms the timer and stops listening; once is enough. -/
def dispose (w : World) (id : Nat) : World :=
  let s := w.session id
  let (subscription, releases) := s.subscription.dispose
  let w := w.setSession id { s with subscription, debouncer := s.debouncer.cancel }
  if releases then w.mapEditor s.editor (·.release id) else w

def closeSource (w : World) (id : Nat) : World :=
  let s := w.session id
  match s.source, s.ownsSource with
  | .registry client, true =>
      let (client, web) := client.close w.web
      { w with web }.setSession id { s with source := .registry client, ownsSource := false }
  | _, _ => w

def close (w : World) (id : Nat) : World := (w.dispose id).closeSource id

end World

end DeclarationFetch
