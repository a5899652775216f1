import DeclarationFetch.Command.Basic
import DeclarationFetch.Console
import DeclarationFetch.Home
import DeclarationFetch.Session.Events
import DeclarationFetch.Settings.Load

/-!
# Running commands

A command reads and writes files, asks a source of packages, prints, and comes to an end.

* The source of packages is opened once, and closed however the command ends.
* A declaration that cannot be had ends `resolve` with a message and exit code 1, while `watch` prints
  the message and goes on.
* `watch` is stopped as soon as it says that it watches.
-/

namespace DeclarationFetch

namespace Command

inductive Fault where
  | homeUnknown
  | file (fault : FileFault)
  | settings (fault : Settings.Fault)
  | cache (fault : DiskCache.Fault)
  | resolution (fault : DeclarationFetch.Fault)
  deriving Repr, DecidableEq

inductive Ending where
  | exit (code : Nat)
  | refused (fault : UsageFault)
  | failed (fault : Fault)
  deriving Repr, DecidableEq

end Command

/-- What commands work on and with. -/
structure Desk where
  surroundings : Surroundings
  /-- The source of packages at the address of a registry. -/
  source : String → PackageSource
  tree : FileTree
  packages : PackageShelf := {}
  web : Registry.Web := {}
  /-- What was printed so far, the latest item first. -/
  printed : List Item := []
  /-- The addresses of the registries that were opened, the latest first. -/
  opened : List String := []

namespace Desk

def work (d : Desk) : Location := d.surroundings.work

def route (d : Desk) (path : String) : Route := Command.routeOf d.work path

def place (d : Desk) (path : String) : Location := d.work.resolve path

def print (d : Desk) (items : List Item) : Desk := { d with printed := items.reverse ++ d.printed }

def supply (d : Desk) (registry : String) : Supply := ⟨d.packages, d.web, d.source registry⟩

def putBack (d : Desk) (s : Supply) : Desk :=
  { d with packages := s.close.packages, web := s.close.web }

end Desk

namespace Command

/-- A part of a command: it works on the desk, and may end the command. -/
abbrev Job (α : Type) := ExceptT Ending (StateM Desk) α

namespace Job

def print (item : Item) : Job Unit := modify fun d => d.print [item]

def fail {α : Type} (fault : Fault) : Job α := throw (.failed fault)

def stop {α : Type} (message : String) : Job α := do
  print (.error message)
  throw (.exit 1)

end Job

/-! ## Options -/

/-- The settings of a command line; what is not given there is null. -/
def overrides (a : Arguments) (pins : Option (Assoc String)) : List (Value × Value) := [
  (.text "versions", (pins.map fun pins => Value.object (pins.map .text).entries).getD .null),
  (.text "only_specified_packages", if a.onlySpecified then .bool true else .null),
  (.text "preload_packages", if a.preload then .bool true else .null),
  (.text "file_recursion_depth", (a.fileDepth.map .int).getD .null),
  (.text "package_recursion_depth", (a.packageDepth.map .int).getD .null),
  (.text "debounce_duration", (a.debounce.map .float).getD .null)]

def settingsAt (l : Location) : Settings.Source := ⟨l.text, l.names⟩

/-- The settings of the user, those of the project, and then one more file. -/
def settingsSources? (d : Desk) (config : Option String) : Option (List Settings.Source) :=
  d.surroundings.globalSettings?.map fun user =>
    [settingsAt user, settingsAt d.surroundings.projectSettings] ++
      (config.map fun path => ⟨path, d.route path⟩).toList

def loadOptions (a : Arguments) : Job Options := do
  let d ← get
  match readPins a.pins with
  | .error pin => throw (.refused (.badPin pin))
  | .ok pins =>
      match settingsSources? d a.config with
      | none => Job.fail .homeUnknown
      | some sources =>
          match Settings.loadOptions d.tree sources (overrides a pins) with
          | .ok options => pure options
          | .error fault =>
              match fault.message? with
              | some message => Job.stop message
              | none => Job.fail (.settings fault)

/-! ## Collaborators -/

/-- The directory of cached sources and its name: the given one, or the standard one. -/
def cacheDirectory (directory : Option String) : Job (Route × String) := do
  let d ← get
  match directory, d.surroundings.cachedSources? with
  | some path, _ => pure (d.route path, path)
  | none, some l => pure (l.names, l.text)
  | none, none => Job.fail .homeUnknown

def openCache (route : Route) : Job DiskCache := do
  let (opened, tree) := DiskCache.openAt route (← get).tree
  modify fun d => { d with tree }
  match opened with
  | .ok cache => pure cache
  | .error fault => Job.fail (.cache fault)

def openSource (registry : String) : Job Unit :=
  modify fun d => { d with opened := registry :: d.opened }

def readSource (path : String) : Job String := do
  let d ← get
  match d.tree.read (d.route path) with
  | .ok text => pure text
  | .error fault => Job.fail (.file fault)

/-! ## Reports -/

def lookupTypes : List String := ["LookedUpPackage", "LookedUpTypeFile"]

/-- What is printed about a report: packages and files that were looked up, and errors. -/
def reportItem? : Report → Option Item
  | .update u =>
      if u.type ∈ lookupTypes then some (.note (if u.success then .green else .yellow) u.message)
      else none
  | .error message => some (.error message)
  | .versions _ => none

def reportItems (reports : List Report) : List Item := reports.filterMap reportItem?

/-! ## Listing imports -/

/-- Kind, package, import path and source path. -/
def row : Resource → List String
  | .package name path => ["package", name, path, ""]
  | .relative path source => ["relative", "", path, source]
  | .inPackage name source path => ["relative-in-package", name, path, source]

def columns : List String := ["Kind", "Package", "Import path", "Source path"]

def directoryOf (d : Desk) (path : String) : Parent := .directory (Path.dirname (d.place path).text)

def listDependencies (source : String) : Job Unit := do
  let text ← readSource source
  match Specifier.dependencies text (directoryOf (← get) source) with
  | .error fault => Job.fail (.resolution (.specifier fault))
  | .ok [] => Job.print (.note .dim "No imports found")
  | .ok found => Job.print (.table columns (found.map row))

/-! ## Resolving once -/

/-- One pass over the source file; gives the paths of the new declarations. -/
def resolveOnce (a : Arguments) (options : Options) (cache : DiskCache) : Job (List String) := do
  let text ← readSource a.source
  let d ← get
  let host : HostRef := match a.out with
    | some path => .directory ⟨d.place path⟩
    | none => .memory 0
  let start : Workspace := { tree := d.tree, hosts := [{ rootUri := options.fileRootPath }] }
  let (result, resolver, w, supply) := (Resolver.start options (.disk cache) host).resolve start text
    (directoryOf d a.source) options.budget Supply.fetch (d.supply a.registry)
  set ({ d with tree := w.tree }.putBack supply |>.print (reportItems w.chronicle))
  match result with
  | .ok _ => pure resolver.context.injected
  | .error fault =>
      match fault.handled? with
      | some message => Job.stop message
      | none => Job.fail (.resolution fault)

def resolveAndList (a : Arguments) : Job Unit := do
  let options ← loadOptions a
  let (route, _) ← cacheDirectory a.cacheDirectory
  let cache ← openCache route
  openSource a.registry
  let injected ← resolveOnce a { options with handlers := { updates := true } } cache
  if injected.isEmpty then Job.print (.note .dim "No new declarations")
  else
    Job.print (.line [])
    Job.print (.note .boldCyan s!"{injected.length} file(s) resolved")
    injected.forM fun path => Job.print (.line [.plain ("  " ++ path)])
    match a.out with
    | some out => Job.print (.line [.plain "\nWritten to ", .styled .cyan out])
    | none => pure ()

/-! ## Watching -/

/-- The first pass of a session over the source file, and its end. -/
def watchOnce (out : String) (a : Arguments) (options : Options) (cache : DiskCache) : Job Unit := do
  let text ← readSource a.source
  let d ← get
  let world : World := { workspace := { tree := d.tree }, packages := d.packages, web := d.web }
  let (editor, world) := world.addEditor { text, uri := (d.place a.source).text }
  let (session, task, loop) := SessionLoop.create { state := world } {
    editor
    options
    host := some (.directory ⟨d.place out⟩)
    cache := some (.disk cache)
    source := some (d.source a.registry) }
  let loop := SessionLoop.close (SessionLoop.settle loop) session
  let (reports, w) := loop.state.takeReports fun _ => true
  set ({ d with tree := w.workspace.tree }.putBack ⟨w.packages, w.web, (w.session session).source⟩
    |>.print (reportItems reports))
  match Loop.task? loop task with
  | some (.failed fault) => Job.fail (.resolution fault)
  | _ => pure ()

/-- The first pass of a watch, with all that it needs made ready. -/
def watchPass (out : String) (a : Arguments) : Job Unit := do
  let options ← loadOptions a
  openSource a.registry
  let (route, _) ← cacheDirectory a.cacheDirectory
  let cache ← openCache route
  watchOnce out a { options with handlers := { errors := true, updates := true } } cache

def watching (source : String) : Item :=
  .line [.styled .bold "Watching", .plain s!" {source} ", .styled .dim "(Ctrl+C to stop)"]

def stopped : Item := .line [.plain "\n", .styled .dim "Stopped"]

def watchSource (out : String) (a : Arguments) : Job Unit := do
  watchPass out a
  Job.print (watching a.source)
  Job.print stopped

/-! ## Clearing the cache -/

def emptyCache (directory : Option String) : Job Unit := do
  let (route, name) ← cacheDirectory directory
  let cache ← openCache route
  match cache.clear (← get).tree with
  | .ok tree =>
      modify fun d => { d with tree }
      Job.print (.line [.styled .green "✓", .plain s!" Cleared {name}"])
  | .error fault => Job.fail (.cache fault)

/-! ## Command lines -/

def perform : Command → Job Unit
  | help => pure ()
  | dependencies source => listDependencies source
  | resolve a => resolveAndList a
  | watch out a => watchSource out a
  | clearCache directory => emptyCache directory

def Job.finish (job : Job Unit) (d : Desk) : Ending × Desk :=
  match job.run.run d with
  | (.ok _, d) => (.exit 0, d)
  | (.error ending, d) => (ending, d)

def run (words : List String) (d : Desk) : Ending × Desk :=
  match Command.read d.tree d.work words with
  | .error fault => (.refused fault, d)
  | .ok command => (perform command).finish d

end Command

end DeclarationFetch
