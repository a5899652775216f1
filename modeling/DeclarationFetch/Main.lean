import DeclarationFetch.Changes
import DeclarationFetch.Command.Run

/-!
# The command line

The files that a command line speaks of are read into a file tree, the command works on that, and what
it changed is written back. A registry is a directory on disk, at an address that starts with `file://`;
there is no connection to any other.
-/

namespace DeclarationFetch

/-! ## Files -/

/-- The tree with what is at a location and below it. -/
partial def loadFiles (t : FileTree) (l : Location) : IO FileTree := do
  let path := (← IO.currentDir) / l.text
  if ← path.isDir then
    let mut tree := (t.makeAll l.names).2
    for entry in ← path.readDir do
      tree ← loadFiles tree (l.child entry.fileName)
    return tree
  else if ← path.pathExists then
    let bytes ← IO.FS.readBinFile path
    return (t.plant l (.ofBytes bytes.toList)).2
  else return t

def contentBytes : Content → ByteArray
  | .text s => s.toUTF8
  | .bytes b => ⟨b.toArray⟩

def storeNode (l : Location) : Node → IO Unit
  | .directory => IO.FS.createDirAll l.text
  | .file content => do
      IO.FS.createDirAll l.parent.text
      IO.FS.writeBinFile l.text (contentBytes content)

def dropNode (l : Location) : IO Unit := do
  let path := (← IO.currentDir) / l.text
  if ← path.isDir then IO.FS.removeDir path else IO.FS.removeFile path

/-- Makes the files on disk what they are in the later tree; what is deepest goes first. -/
def storeFiles (before after : FileTree) : IO Unit := do
  let named (t : FileTree) := t.nodes.map fun entry => (entry.1.text, entry.2)
  let found := changes (named before) (named after)
  for (name, node?) in found do
    match node? with
    | some node => storeNode (Location.root.resolve name) node
    | none => pure ()
  let gone := (found.filter fun entry => entry.2.isNone).map Prod.fst
  for name in gone.mergeSort fun a b => b.length ≤ a.length do
    dropNode (Location.root.resolve name)

/-! ## Surroundings -/

def surroundings : IO Surroundings := do
  let work := Location.root.resolve (← IO.currentDir).toString
  let user := Location.root.resolve ((← IO.getEnv "HOME").getD "/")
  return ⟨user, work, ← IO.getEnv "AUTO_TYPINGS_HOME"⟩

/-- The places that a command line may be about. -/
def placesOf (s : Surroundings) (words : List String) : List Location :=
  let named := words.map fun word => s.work.resolve ((Command.Words.splitValue word).2.getD word)
  [s.projectSettings] ++ s.globalSettings?.toList ++ s.cachedSources?.toList ++ named

/-- The address below which a directory of this machine is served. -/
def localRoot : List Char := "file://localhost".toList

/-- The packages in a directory, as a server at its address gives them. -/
def localWeb (address : String) (t : FileTree) (l : Location) : Registry.Web :=
  { replies := .ofList ((t.filesBelow l).filterMap fun file =>
      (Url.request (Registry.trimRoot address ++ "/" ++ file.1)).toOption.map fun u =>
        (u.text, .ok { body := (contentBytes file.2).data.toList })) }

def webAt (address : String) : IO Registry.Web := do
  if localRoot.isPrefixOf address.toList then
    let l := Location.root.resolve (String.ofList (address.toList.drop localRoot.length))
    return localWeb address (← loadFiles {} l) l
  else return { elsewhere := .error (.transport "no connection to the network") }

def registryOf : Command → String
  | .resolve a => a.registry
  | .watch _ a => a.registry
  | _ => ""

/-! ## Commands -/

def finish (before : FileTree) (ending : Command.Ending) (d : Desk) : IO UInt32 := do
  for item in d.printed.reverse do
    IO.println item.text
  storeFiles before d.tree
  match ending with
  | .exit code => return code.toUInt32
  | .refused fault =>
      IO.eprintln s!"Error: {fault.message}"
      return 2
  | .failed fault =>
      IO.eprintln s!"Unexpected fault: {repr fault}"
      return 1

/-- Does a job with the files as they are now. -/
def doJob (words : List String) (address : String) (job : Command.Job Unit) : IO UInt32 := do
  let around ← surroundings
  let tree ← (placesOf around words).foldlM loadFiles {}
  let d : Desk := {
    surroundings := around
    source := fun root => .registry (.own root)
    tree
    web := ← webAt address }
  let (ending, d) := job.finish d
  finish tree ending d

/-- Does a pass whenever the source has changed. -/
partial def follow (words : List String) (out : String) (a : Arguments) (last : String) : IO UInt32 := do
  IO.sleep (a.interval.scaled 1000).toUInt32
  let text ← IO.FS.readFile ((← IO.currentDir) / a.source)
  if text ≠ last then
    let code ← doJob words a.registry (Command.watchPass out a)
    if code ≠ 0 then return code
  follow words out a text

/-- Does a first pass and then follows the source for as long as the program is not stopped. -/
def watchFiles (words : List String) (out : String) (a : Arguments) : IO UInt32 := do
  let text ← IO.FS.readFile ((← IO.currentDir) / a.source)
  let code ← doJob words a.registry (Command.watchPass out a)
  if code ≠ 0 then return code
  IO.println (Command.watching a.source).text
  follow words out a text

def runCommandLine (words : List String) : IO UInt32 := do
  let around ← surroundings
  let tree ← (placesOf around words).foldlM loadFiles {}
  match Command.read tree around.work words with
  | .error fault =>
      IO.eprintln s!"Error: {fault.message}"
      return 2
  | .ok (.watch out a) => watchFiles words out a
  | .ok command => doJob words (registryOf command) (Command.perform command)

end DeclarationFetch

def main (words : List String) : IO UInt32 := DeclarationFetch.runCommandLine words
