import DeclarationFetch.Fault
import DeclarationFetch.Options
import DeclarationFetch.Package
import DeclarationFetch.Pins
import DeclarationFetch.Progress

/-!
# Walks

A resolution pass as a program that stops at each fetch and waits for the answer.

* A `Scene` is what a pass sees: options, pins, its own context, and an environment that belongs to the
  collaborators.
* A `Step` is a pass that has come to its end or to a fetch. Whoever goes on from a fetch may hand back
  a changed scene, since others may act in the meantime.
* A `Walk` is a part of a pass, from a scene to a step; walks are put one after another by `>>=`, and a
  fault ends them.
-/

namespace DeclarationFetch.Resolution

/-- A file wanted from a package: the directory it is wanted from, and the path from there. -/
structure Wanted where
  package : String
  sourcePath : String
  importPath : String
  deriving Repr, DecidableEq

def Wanted.resource (w : Wanted) : Resource := .inPackage w.package w.sourcePath w.importPath

/-- What is left of a budget where a file is expanded: crossings into other packages, and steps along
the files of its own. -/
structure Remaining where
  crossings : Nat
  steps : Nat
  deriving Repr, DecidableEq

inductive Milestone where
  | entered (file : Wanted)
  /-- The expansion that began last and goes on has ended. -/
  | left
  | expanded (package : String) (version : Option String) (path text : String) (budget : Remaining)
  deriving Repr, DecidableEq

structure Context where
  /-- The keys of the dependencies that were taken up. -/
  resolved : List String := []
  /-- Everything that happened, the latest first. -/
  history : List Milestone := []
  /-- Whether the host got new content, as long as it is not reset. -/
  newImports : Bool := false
  /-- The host paths that were written, in order. -/
  injected : List String := []

namespace Context

def expandedKey? : Milestone → Option String
  | .expanded package version path _ _ => some (Package.fileKey package version path)
  | _ => none

/-- The keys of the files that were expanded, the latest first. -/
def loaded (c : Context) : List String := c.history.filterMap expandedKey?

theorem exists_of_mem_loaded {c : Context} {key : String} (h : key ∈ c.loaded) :
    ∃ package version path text budget,
      .expanded package version path text budget ∈ c.history ∧
        Package.fileKey package version path = key := by
  obtain ⟨m, hm, hk⟩ := List.mem_filterMap.mp h
  cases m with
  | entered | left => cases hk
  | expanded package version path text budget =>
    cases hk
    exact ⟨package, version, path, text, budget, hm, rfl⟩

def mark (c : Context) (key : String) : Context :=
  if c.resolved.contains key then c else { c with resolved := c.resolved ++ [key] }

@[simp] theorem history_mark (c : Context) (key : String) : (c.mark key).history = c.history := by
  unfold mark
  split <;> rfl

@[simp] theorem newImports_mark (c : Context) (key : String) :
    (c.mark key).newImports = c.newImports := by
  unfold mark
  split <;> rfl

@[simp] theorem injected_mark (c : Context) (key : String) : (c.mark key).injected = c.injected := by
  unfold mark
  split <;> rfl

theorem resolved_mark (c : Context) (key : String) :
    (c.mark key).resolved = if c.resolved.contains key then c.resolved else c.resolved ++ [key] := by
  unfold mark
  split <;> rfl

theorem mem_resolved_mark {c : Context} {key other : String} :
    other ∈ (c.mark key).resolved ↔ other ∈ c.resolved ∨ other = key := by
  unfold mark
  split
  · next h =>
    refine ⟨.inl, fun ho => ho.elim id fun he => ?_⟩
    exact he ▸ List.contains_iff_mem.mp h
  · simp

def record (c : Context) (m : Milestone) : Context := { c with history := m :: c.history }

def inject (c : Context) (path : String) : Context :=
  { c with newImports := true, injected := c.injected ++ [path] }

end Context

structure Scene (ε : Type) where
  options : Options
  pins : Pins
  context : Context
  env : ε

/-- A file asked for at the source of packages, with the pin of its package. -/
structure Request where
  package : String
  path : String
  version : Value

abbrev Answer := Except Fault (Option String)

inductive Step (ε α : Type) where
  | done (result : Except Fault α) (scene : Scene ε)
  | fetch (request : Request) (scene : Scene ε) (resume : Answer → Scene ε → Step ε α)

def Walk (ε α : Type) := Scene ε → Step ε α

variable {ε α β : Type}

namespace Step

def andThen (next : Except Fault α → Scene ε → Step ε β) : Step ε α → Step ε β
  | done result scene => next result scene
  | fetch request scene resume => fetch request scene fun answer scene => (resume answer scene).andThen next

/-- The end of a step, with each fetch answered at once by a source that may remember the requests. -/
def run {σ : Type} (source : Request → σ → Answer × σ) :
    Step ε α → σ → Except Fault α × Scene ε × σ
  | done result scene, memory => (result, scene, memory)
  | fetch request scene resume, memory =>
      (resume (source request memory).1 scene).run source (source request memory).2

end Step

namespace Walk

def pure (a : α) : Walk ε α := fun s => .done (.ok a) s

def raise (fault : Fault) : Walk ε α := fun s => .done (.error fault) s

def bind (w : Walk ε α) (f : α → Walk ε β) : Walk ε β := fun s =>
  (w s).andThen fun result s =>
    match result with
    | .ok a => f a s
    | .error fault => .done (.error fault) s

instance : Monad (Walk ε) where
  pure := Walk.pure
  bind := Walk.bind

def rescue (w : Walk ε α) (f : Fault → Walk ε α) : Walk ε α := fun s =>
  (w s).andThen fun result s =>
    match result with
    | .ok a => .done (.ok a) s
    | .error fault => f fault s

/-- Changes the context at the end, however the walk ends. -/
def closing (w : Walk ε α) (change : Context → Context) : Walk ε α := fun s =>
  (w s).andThen fun result s => .done result { s with context := change s.context }

def scene : Walk ε (Scene ε) := fun s => .done (.ok s) s

def ofExcept (r : Except Fault α) : Walk ε α := fun s => .done r s

def act (f : ε → Except Fault α × ε) : Walk ε α := fun s =>
  .done (f s.env).1 { s with env := (f s.env).2 }

def change (f : Context → Context) : Walk ε Unit := fun s =>
  .done (.ok ()) { s with context := f s.context }

def setPins (pins : Pins) : Walk ε Unit := fun s => .done (.ok ()) { s with pins := pins }

def request (r : Request) : Walk ε (Option String) := fun s =>
  .fetch r s fun answer s => .done answer s

def each (f : α → Walk ε Unit) : List α → Walk ε Unit
  | [] => Walk.pure ()
  | a :: rest => Walk.bind (f a) fun _ => each f rest

end Walk

/-- What a pass works with besides the source of packages. Each action may fault, and may change the
environment. A handler is called only when the options say that it is installed. -/
structure Collaborators (ε : Type) where
  cached : String → ε → Except Fault (Option Value) × ε
  isCached : String → ε → Except Fault Bool × ε
  store : String → String → ε → Except Fault Unit × ε
  hosted : String → ε → Except Fault (Option String) × ε
  host : String → String → ε → Except Fault Unit × ε
  /-- Readies the host for a file that turns out to be no text. -/
  makeRoom : String → ε → Except Fault Unit × ε
  onUpdate : Update → ε → Except Fault Unit × ε
  onVersions : Pins → ε → Except Fault Unit × ε
  onError : String → ε → Except Fault Unit × ε

end DeclarationFetch.Resolution
