import DeclarationFetch.Manifest
import DeclarationFetch.Resolution.Walk

/-!
# Looking up declarations

How the entry of a package and the file of an import are found.

* A file comes from the cache, or from the source of packages and then goes into the cache.
* The entry of a package is named by its manifest, or by that of the package which declares types for
  it. A version that such a manifest names is pinned.
* A path without an extension is tried with each of the extensions in turn, and last as a directory with
  a manifest of its own.
-/

namespace DeclarationFetch.Resolution

variable {ε : Type} (c : Collaborators ε)

def report (u : Update) : Walk ε Unit := do
  if (← Walk.scene).options.handlers.updates then Walk.act (c.onUpdate u)

def versionOf (package : String) : Walk ε (Option String) := do
  return (← Walk.scene).pins.version? package

/-! ## Files -/

/-- A file by its path, from the cache or else from the source; `none` if there is no such file. What
comes from the cache need not be a text. -/
def retrieve (package path : String) : Walk ε (Option Value) := do
  let pins := (← Walk.scene).pins
  let key := Package.fileKey package (pins.version? package) path
  match ← Walk.act (c.cached key) with
  | some value => do
      report c (.loadedFromCache key)
      return some value
  | none => do
      match ← Walk.request ⟨package, path, pins.pin package⟩ with
      | none => return none
      | some text => do
          Walk.act (c.store key text)
          report c (.storedToCache key)
          return some (.text text)

def textOf : Value → Walk ε String
  | .text text => Walk.pure text
  | _ => Walk.raise .cachedNoText

/-- Puts a file into the host, unless the host has it already. -/
def inject (path text : String) : Walk ε Unit := do
  if (← Walk.act (c.hosted path)) = some text then return ()
  Walk.act (c.host path text)
  Walk.change fun context => context.inject path

/-! ## Pins -/

def replacePins (pins : Pins) : Walk ε Unit := do
  Walk.setPins pins
  if (← Walk.scene).options.handlers.versions then Walk.act (c.onVersions pins)

def pin (package version : String) : Walk ε Unit := do
  let pins := (← Walk.scene).pins
  if pins.agrees package version then return ()
  replacePins c (pins.insert package (.text version))

/-! ## Entries of packages -/

/-- Whether a package or the package that declares its types is pinned. -/
def isSpecified (pins : Pins) (package : String) : Bool :=
  pins.contains package || pins.contains (Package.definitelyTyped package)

/-- The path that an import wants from a package, given the entry in the manifest of `directory`. The
manifest at the root speaks for the root only, so that a path in the package is its own entry. -/
def entryPath (directory subPath entry : String) : String :=
  if subPath ≠ "" ∧ directory = "" then subPath
  else Path.join [directory, Path.stripDotSlash entry]

/-- The entry named by a manifest. The manifest goes into the host, and under its version into the
cache too. -/
def manifestEntry (package directory subPath : String) (content : Value) (definitelyTyped : Bool) :
    Walk ε (Option Wanted) := do
  let text ← textOf content
  let manifest ← Walk.ofExcept (Manifest.read package text)
  match manifest.entry? with
  | none => return none
  | some entry => do
      let path := Path.join [directory, "package.json"]
      inject c (Package.hostPath package path) text
      match manifest.version? with
      | none => Walk.pure ()
      | some version => do
          pin c package version
          let key := Package.fileKey package (some version) path
          if !(← Walk.act (c.isCached key)) then Walk.act (c.store key text)
      report c (.lookedUpPackage package definitelyTyped true)
      return some ⟨package, "", entryPath directory subPath entry⟩

/-- The manifest for a path in a package, with the directory that it is in: that of the path, or else
that of the package. -/
def manifestFor (package subPath : String) : Walk ε (Option (Value × String)) := do
  match ← retrieve c package (Path.join [subPath, "package.json"]) with
  | some content => return some (content, subPath)
  | none =>
      if subPath = "" then return none
      else return (← retrieve c package "package.json").map fun content => (content, "")

/-- The entry in the package that declares the types of another. -/
def typedEntry (package subPath : String) : Walk ε (Option Wanted) := do
  let typed := Package.definitelyTyped package
  match ← retrieve c typed "package.json" with
  | none => return none
  | some content => manifestEntry c typed "" subPath content true

/-- The entry of a package by its own manifest, or else by that of the package that declares its
types. -/
def ownOrTypedEntry (package subPath : String) : Walk ε (Option Wanted) := do
  match ← manifestFor c package subPath with
  | none => return none
  | some (content, directory) =>
      match ← manifestEntry c package directory subPath content false with
      | some entry => return some entry
      | none => typedEntry c package subPath

/-- The entry of a package; `none` if it has no declarations or is not to be looked up. -/
def packageEntry (package subPath : String) : Walk ε (Option Wanted) := do
  let s ← Walk.scene
  let found ←
    if s.options.onlySpecifiedPackages && !isSpecified s.pins package then Walk.pure none
    else ownOrTypedEntry c package subPath
  if found.isNone then report c (.lookedUpPackage package false false)
  return found

/-! ## Files of imports -/

/-- What a file may end in, in the order in which the endings are tried. -/
def extensions : List String := [".d.ts", "/index.d.ts", ".ts", ".tsx", "/index.ts", "/index.tsx"]

def hasExtension (path : String) : Bool := extensions.any fun ending => Text.endsWith path ending

def leavesPackage (path : String) : Bool :=
  path = ".." || Text.startsWith path "../" || Text.startsWith path "/"

def filePath (w : Wanted) : String :=
  let path := Text.trimRight '/' (Path.join [w.sourcePath, w.importPath]).toList
  if path = [] then "." else String.ofList path

def reportFile (package path : String) (success : Bool) : Walk ε Unit :=
  report c (.lookedUpTypeFile (Path.join [package, path]) success)

def exactly (package path : String) : Walk ε (Option (Value × String)) := do
  match ← retrieve c package path with
  | none => return none
  | some content => do
      reportFile c package path true
      return some (content, path)

def firstOf (package path : String) : List String → Walk ε (Option (Value × String))
  | [] => Walk.pure none
  | ending :: rest => do
      let candidate := path ++ ending
      let found ← retrieve c package candidate
      report c (.attemptedLookUpFile (Path.join [package, candidate]) found.isSome)
      match found with
      | some content => do
          reportFile c package candidate true
          return some (content, candidate)
      | none => firstOf package path rest

/-- The file that the manifest of a directory names. -/
def inDirectory (package path : String) : Walk ε (Option (Value × String)) := do
  match ← retrieve c package (Path.join [path, "package.json"]) with
  | none => return none
  | some content => do
      let manifest ← Walk.ofExcept (Manifest.read package (← textOf content))
      match manifest.types? with
      | none => return none
      | some types => exactly c package (Path.join [path, Path.stripDotSlash types])

/-- The content and the path of a wanted file; `none` if it is not there or not in the package. -/
def sourceFile (w : Wanted) : Walk ε (Option (Value × String)) := do
  let path := filePath w
  if leavesPackage path then
    reportFile c w.package path false
    return none
  let direct ←
    if hasExtension path then exactly c w.package path else firstOf c w.package path extensions
  match direct with
  | some found => return some found
  | none => do
      match ← inDirectory c w.package path with
      | some found => return some found
      | none => do
          reportFile c w.package path false
          return none

end DeclarationFetch.Resolution
