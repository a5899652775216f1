import DeclarationFetch.Fault

/-!
# Editors

A text that is edited, with the sessions that listen to its changes and the number of times that it was
asked for and that it was refreshed. The registration of a listener is released exactly once.
-/

namespace DeclarationFetch

/-! ## Registrations -/

structure Subscription where
  disposed : Bool := false
  deriving Repr, DecidableEq

namespace Subscription

/-- The subscription after its disposal, and whether the registration is released by it. -/
def dispose (s : Subscription) : Subscription × Bool := (⟨true⟩, !s.disposed)

theorem releases_once (s : Subscription) : s.dispose.1.dispose.2 = false := rfl

end Subscription

/-! ## Editors -/

structure Editor where
  text : String := ""
  uri : String := "inmemory://model/main.ts"
  /-- The numbers of the sessions that listen, in the order in which they came. -/
  listeners : List Nat := []
  reads : Nat := 0
  refreshes : Nat := 0
  /-- What is raised when the text is asked for. -/
  textFault : Option Fault := none
  /-- What is raised when the editor is to refresh. -/
  refreshFault : Option Fault := none
  deriving Repr, DecidableEq, Inhabited

namespace Editor

def listen (e : Editor) (session : Nat) : Editor := { e with listeners := e.listeners ++ [session] }

def release (e : Editor) (session : Nat) : Editor :=
  { e with listeners := e.listeners.filter (· ≠ session) }

def getText (e : Editor) : Except Fault String × Editor :=
  (match e.textFault with
    | some fault => .error fault
    | none => .ok e.text,
    { e with reads := e.reads + 1 })

def refresh (e : Editor) : Except Fault Unit × Editor :=
  match e.refreshFault with
  | some fault => (.error fault, e)
  | none => (.ok (), { e with refreshes := e.refreshes + 1 })

end Editor

end DeclarationFetch
