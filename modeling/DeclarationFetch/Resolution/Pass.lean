import DeclarationFetch.Resolution.Lookup

/-!
# Resolution passes

A pass follows the imports of a source text depth first: each dependency is looked up, put into the
host, and expanded in turn.

* The recursion goes down on two numbers, the crossings between packages that are left and the steps
  along the files of one package that are left. `inPackage` is structural on the second and `across` on
  the first. What lies behind a step is worked out when the step is taken, so budgets may be large.
* A dependency is taken up once for its key, and a file is expanded once.
* Each dependency of the source text is a branch of its own: an error handler takes the failure of a
  branch, and the pass goes on with the next.
-/

namespace DeclarationFetch.Resolution

variable {ε : Type} (c : Collaborators ε)

/-- What is done with a file of a package, where the budget allows it. -/
abbrev Enter (ε : Type) := Wanted → Walk ε Unit

/-! ## Dependencies -/

def once (resource : Resource) (package : String) (f : String → Walk ε Unit) : Walk ε Unit := do
  let key := resource.key (← versionOf package)
  if (← Walk.scene).context.resolved.contains key then return ()
  f key

def mark (key : String) : Walk ε Unit := Walk.change fun context => context.mark key

/-- Looks a package up and enters its entry. The lookup may pin a version, which changes the key. -/
def openPackage (enter : Enter ε) (package subPath key : String) : Walk ε Unit := do
  mark key
  let entry ← packageEntry c package subPath
  mark ((Resource.package package subPath).key (← versionOf package))
  match entry with
  | none => return ()
  | some wanted => do
      mark (wanted.resource.key (← versionOf wanted.package))
      enter wanted

/-- A package dependency. When packages are preloaded, the package as a whole comes before a path in
it. -/
def visitPackage (enter : Enter ε) (package subPath : String) : Walk ε Unit :=
  once (.package package subPath) package fun key => do
    if subPath ≠ "" ∧ (← Walk.scene).options.preloadPackages then
      once (.package package "") package fun rootKey => openPackage c enter package "" rootKey
    openPackage c enter package subPath key

def visitFile (enter : Enter ε) (w : Wanted) : Walk ε Unit :=
  once w.resource w.package fun key => do
    mark key
    enter w

/-- A dependency of a file of the package `home`, or of no package. Entering another package takes
`cross`, and going on in the same package takes `step`; where the budget is exhausted there is none. -/
def visit (cross step : Option (Enter ε)) (home : Option String) : Resource → Walk ε Unit
  | .relative _ _ => Walk.pure ()
  | .package package subPath =>
      match cross with
      | none => Walk.pure ()
      | some enter => visitPackage c enter package subPath
  | .inPackage package source path =>
      match if home = some package then step else cross with
      | none => Walk.pure ()
      | some enter => visitFile enter ⟨package, source, path⟩

/-! ## Expansion -/

def importsOf (source : String) (parent : Parent) : Walk ε (List Resource) :=
  Walk.ofExcept ((Specifier.dependencies source parent).mapError .specifier)

/-- The text of a file that is to go into the host. What is no text does not get there. -/
def hostable (hostPath : String) : Value → Walk ε String
  | .text text => Walk.pure text
  | _ => do
      let _ ← Walk.act (c.hosted hostPath)
      Walk.act (c.makeRoom hostPath)
      Walk.raise .cachedNoText

/-- Looks a file up, puts it into the host and visits its imports; a file that was expanded already is
left alone. -/
def expand (budget : Remaining) (cross step : Option (Enter ε)) (w : Wanted) : Walk ε Unit := do
  match ← sourceFile c w with
  | none => return ()
  | some (content, path) => do
      let version ← versionOf w.package
      if (← Walk.scene).context.loaded.contains (Package.fileKey w.package version path) then return ()
      let text ← hostable c (Package.hostPath w.package path) content
      Walk.change fun context => context.record (.expanded w.package version path text budget)
      inject c (Package.hostPath w.package path) text
      let dependencies ← importsOf text (.resource (.inPackage w.package (Path.dirname path) ""))
      Walk.each (visit c cross step (some w.package)) dependencies

def expandMarked (budget : Remaining) (cross step : Option (Enter ε)) : Enter ε := fun w => do
  Walk.change fun context => context.record (.entered w)
  (expand c budget cross step w).closing fun context => context.record .left

/-- Expands a file of a package, with so many steps along the files of the package left. -/
def inPackage (crossings : Nat) (cross : Option (Enter ε)) : Nat → Enter ε
  | 0 => expandMarked c ⟨crossings, 0⟩ cross none
  | steps + 1 =>
      expandMarked c ⟨crossings, steps + 1⟩ cross (some fun w => inPackage crossings cross steps w)

/-- Enters a package, if a crossing is left. Every package starts with the same number of steps. -/
def across (initialSteps : Nat) : Nat → Option (Enter ε)
  | 0 => none
  | crossings + 1 => some fun w => inPackage c crossings (across initialSteps crossings) initialSteps w

def along (crossings : Nat) (cross : Option (Enter ε)) : Nat → Option (Enter ε)
  | 0 => none
  | steps + 1 => some fun w => inPackage c crossings cross steps w

/-! ## Passes -/

/-- Hands a failure to the error handler. Without a handler it goes on, as any other fault does. -/
def handle (fault : Fault) : Walk ε Unit := do
  match fault.handled?, (← Walk.scene).options.handlers.errors with
  | some message, true => Walk.act (c.onError message)
  | _, _ => Walk.raise fault

def branch (cross step : Option (Enter ε)) (home : Option String) (r : Resource) : Walk ε Unit :=
  (visit c cross step home r).rescue (handle c)

def preloads (s : Scene ε) : Except Fault (List Resource) :=
  if s.options.preloadPackages then
    s.pins.keys.mapM fun name =>
      if name = "" then .error (.specifier .emptyPackageName) else .ok (.package name "")
  else .ok []

def homeOf : Parent → Option String
  | .resource (.inPackage package _ _) => some package
  | _ => none

def pass (source : String) (parent : Parent) (budget : Budget) : Walk ε Unit := do
  Walk.change fun _ => {}
  let first ← Walk.ofExcept (preloads (← Walk.scene))
  let rest ← importsOf source parent
  let cross := across c budget.initialFileDepth.toNat budget.packageDepth.toNat
  let step := along c budget.packageDepth.toNat cross budget.fileDepth.toNat
  Walk.each (branch c cross step (homeOf parent)) (first ++ rest)

end DeclarationFetch.Resolution
