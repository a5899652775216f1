import DeclarationFetch.Session.Basic

/-!
# Passes of sessions

A pass of a session as a task of the event loop. At each fetch the session's part of the scene is put
back into the world, so that what others change in the meantime counts. Files at hand are waited for at
the gate, and those of a registry on the web.
-/

namespace DeclarationFetch.World

/-! ## Scenes -/

def scene (w : World) (id : Nat) : Resolution.Scene Workspace := (w.session id).resolver.scene w.workspace

def putScene (w : World) (id : Nat) (s : Resolution.Scene Workspace) : World :=
  ({ w with workspace := s.env }.gather id).mapSession id fun session =>
    { session with resolver := session.resolver.update s }

/-! ## Fetches -/

/-- Puts a request down where it is made, and tells whether the answer is behind the gate. -/
def ask (w : World) (id : Nat) (request : Resolution.Request) : Bool × World :=
  match (w.session id).source with
  | .shelf => (true, { w with packages := w.packages.record request })
  | .registry _ => (false, w)

/-- What a pass that goes on gets for its request: the fault that it is thrown, or else the answer of
the session's source. -/
def answer (w : World) (id : Nat) (request : Resolution.Request) (thrown : Option Fault) :
    Resolution.Answer × World :=
  match thrown, (w.session id).source with
  | some fault, _ => (.error fault, w)
  | none, .shelf => (w.packages.answer request, w)
  | none, .registry client =>
      let (answer, client, web) := client.fetch request w.web
      (answer, { w with web }.mapSession id fun s => { s with source := .registry client })

def course (id : Nat) : Resolution.Step Workspace Unit → World → Course World
  | .done result scene, w => .ended result (w.putScene id scene)
  | .fetch request scene resume, w =>
      let (gated, w) := (w.putScene id scene).ask id request
      .waiting gated w fun thrown w =>
        let (answer, w) := w.answer id request thrown
        course id (resume answer (w.scene id)) w

/-! ## Passes -/

/-- The end of a pass that went well: the editor is refreshed if the host got new content. -/
def refreshed (w : World) (id : Nat) : Except Fault Unit × World :=
  let s := w.session id
  if s.resolver.newImports then
    let (result, w) := if s.options.skipRefreshAfterResolve then (.ok (), w) else w.refreshEditor id
    match result with
    | .ok _ => (.ok (), w.mapSession id fun s => { s with resolver := s.resolver.resetNewImports })
    | .error fault => (.error fault, w)
  else (.ok (), w)

def finishPass (id : Nat) (result : Except Fault Unit) (w : World) : Course World :=
  match result with
  | .ok _ =>
      let (result, w) := w.refreshed id
      .ended result w
  | .error fault => .ended (.error fault) w

def passOver (id : Nat) (w : World) : Course World :=
  match w.tellUpdate id .resolveNewImports with
  | (.error fault, w) => .ended (.error fault) w
  | (.ok _, w) =>
      match w.readEditor id with
      | (.error fault, w) => .ended (.error fault) w
      | (.ok text, w) =>
          let s := w.session id
          let step := Resolution.pass s.collaborators text
            (.directory (Path.dirname (w.editorOf id).uri)) s.options.budget (w.scene id)
          (course id step w).andThen (finishPass id)

def setResolving (w : World) (id : Nat) (isResolving : Bool) : World :=
  w.mapSession id fun s => { s with isResolving }

/-- A task of a session that counts as running from its beginning until it ends, in whatever way. -/
def guarded (id : Nat) (body : World → Course World) (w : World) : Course World :=
  (body (w.setResolving id true)).closing fun w => w.setResolving id false

/-- One pass over the content of the editor, unless one is running. -/
def resolveContents (id : Nat) (w : World) : Course World :=
  if (w.session id).isResolving then .ended (.ok ()) w else guarded id (passOver id) w

/-- The first pass of a session; if it fails the session is closed. -/
def firstPass (id : Nat) (w : World) : Course World :=
  (w.resolveContents id).onFailure (·.close id)

end DeclarationFetch.World
