import DeclarationFetch.Assoc
import DeclarationFetch.Budget
import DeclarationFetch.Double

/-!
# Options

What resolver and session may be told, with the values they have when nothing is said.
-/

namespace DeclarationFetch

structure Handlers where
  errors : Bool := false
  updates : Bool := false
  versions : Bool := false
  deriving Repr, DecidableEq

structure Options where
  /-- What the addresses of declaration files start with. -/
  fileRootPath : String := "inmemory://model/"
  /-- Only packages that are pinned are resolved. -/
  onlySpecifiedPackages : Bool := false
  /-- Packages are resolved as a whole, and pinned packages without being imported. -/
  preloadPackages : Bool := false
  shareCache : Bool := false
  skipRefreshAfterResolve : Bool := false
  /-- Seconds from the last edit to the next pass; zero or less is at once. -/
  debounceDuration : Double := 4.0
  fileRecursionDepth : Int := 10
  packageRecursionDepth : Int := 3
  versions : Option (Assoc String) := none
  handlers : Handlers := {}

namespace Options

def budget (o : Options) : Budget := .ofDepths o.fileRecursionDepth o.packageRecursionDepth

end Options

end DeclarationFetch
