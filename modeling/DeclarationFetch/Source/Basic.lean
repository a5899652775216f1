import DeclarationFetch.Registry.Client
import DeclarationFetch.Source.Shelf

/-!
# Sources of packages

Where package files come from: packages at hand, or a registry on the web.
-/

namespace DeclarationFetch

inductive PackageSource where
  | shelf
  | registry (client : Registry.Client)
  deriving Repr, DecidableEq

/-- A source with all that it is asked of. -/
structure Supply where
  packages : PackageShelf
  web : Registry.Web
  source : PackageSource

namespace Supply

def fetch (r : Resolution.Request) (s : Supply) : Resolution.Answer × Supply :=
  match s.source with
  | .shelf =>
      let (answer, packages) := PackageShelf.fetch r s.packages
      (answer, { s with packages })
  | .registry client =>
      let (answer, client, web) := client.fetch r s.web
      (answer, { s with source := .registry client, web })

def close (s : Supply) : Supply :=
  match s.source with
  | .shelf => s
  | .registry client =>
      let (client, web) := client.close s.web
      { s with source := .registry client, web }

end Supply

end DeclarationFetch
