import DeclarationFetch.Cache.Disk
import DeclarationFetch.Host.Directory
import DeclarationFetch.Specifier.Classify
import DeclarationFetch.Text.Charset.Basic
import DeclarationFetch.Url

/-!
# Faults

What can go wrong while imports are resolved. Faults of fetching and of manifests are failures of one
dependency, which an error handler may take; any other fault ends the pass.
-/

namespace DeclarationFetch

inductive FetchFault where
  | unreachable (target reason : String)
  /-- The server answered with an error. -/
  | badStatus (address : String) (status : Nat)
  | malformedManifest (package : String) (fault : Json.Fault)
  | manifestNotObject (package : String)
  deriving Repr, DecidableEq

def FetchFault.message : FetchFault → String
  | unreachable target reason => s!"Failed to fetch {target}: {reason}"
  | badStatus address status => s!"Error other than 404 while fetching {address}: HTTP {status}"
  | malformedManifest package fault => s!"Invalid package.json for {package}: {fault.message}"
  | manifestNotObject package => s!"Invalid package.json for {package}: not an object"

inductive Fault where
  | fetch (fault : FetchFault)
  | specifier (fault : Specifier.Fault)
  /-- A manifest holds an integer that is too long to be read. -/
  | integerTooLong
  | cache (fault : DiskCache.Fault)
  /-- A cache entry holds something else than a text. -/
  | cachedNoText
  | host (fault : DirectoryHost.Fault)
  /-- An address is no URL, or leads to none. -/
  | address (fault : Url.Fault)
  | unschemed
  /-- A header of an answer holds other characters than those of ASCII. -/
  | header
  /-- The bytes of an answer are no text. -/
  | unreadable (reason : Text.Unreadable)
  /-- A fault that a collaborator raised for reasons of its own. -/
  | foreign (name : String)
  deriving Repr, DecidableEq

namespace Fault

/-- What an error handler is told; no handler is asked about the other faults. -/
def handled? : Fault → Option String
  | fetch f => some f.message
  | _ => none

end Fault

end DeclarationFetch
