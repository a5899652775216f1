import DeclarationFetch.Resolution.Pass
import DeclarationFetch.Workspace

/-!
# Resolvers

A resolver serves one editor. Pins and the context of the last pass stay with it; cache and host are in
a workspace and outlive its passes.
-/

namespace DeclarationFetch

structure Resolver where
  options : Options
  cache : CacheRef
  host : HostRef
  pins : Pins
  context : Resolution.Context := {}

namespace Resolver

def start (options : Options) (cache : CacheRef) (host : HostRef) : Resolver :=
  { options, cache, host, pins := Pins.ofVersions options.versions }

def collaborators (r : Resolver) : Resolution.Collaborators Workspace :=
  Workspace.collaborators r.cache r.host

/-- What a pass sees at its start. -/
def scene (r : Resolver) (w : Workspace) : Resolution.Scene Workspace :=
  ⟨r.options, r.pins, r.context, w⟩

/-- The resolver after a pass has gone as far as a scene. -/
def update (r : Resolver) (s : Resolution.Scene Workspace) : Resolver :=
  { r with options := s.options, pins := s.pins, context := s.context }

def begin_ (r : Resolver) (w : Workspace) (source : String) (parent : Parent) (budget : Budget) :
    Resolution.Step Workspace Unit :=
  Resolution.pass r.collaborators source parent budget (r.scene w)

def resolve {σ : Type} (r : Resolver) (w : Workspace) (source : String) (parent : Parent)
    (budget : Budget) (packages : Resolution.Request → σ → Resolution.Answer × σ) (memory : σ) :
    Except Fault Unit × Resolver × Workspace × σ :=
  let (result, scene, memory) := (r.begin_ w source parent budget).run packages memory
  (result, r.update scene, scene.env, memory)

def setPins (r : Resolver) (w : Workspace) (pins : Pins) : Resolver × Workspace :=
  ({ r with pins := pins },
    if r.options.handlers.versions then (Workspace.tell (.versions pins) w).2 else w)

def resetNewImports (r : Resolver) : Resolver :=
  { r with context := { r.context with newImports := false } }

def newImports (r : Resolver) : Bool := r.context.newImports

end Resolver

end DeclarationFetch
