import DeclarationFetch.Proofs.Resolution.Account

/-! # Parts of a pass, side by side

What holds of a pass because it holds of each thing that a pass does and is kept by every way to put
walks together.

* `Action`, `Collaborators.perform`: what collaborators are asked to do.
* `Context.Spares`: a change of the context that leaves open whether the host got new content.
* `Scene.Resembles`: two scenes with nothing between them that a pass looks at before a failure.
* `Parallel c c' P`: a relation between walks among two sets of collaborators with one law for each way
  to build a walk and one for each thing that a pass does.
* `Parallel.visit`, `Parallel.pass`: what the laws make of a dependency, and of a whole pass.
-/

namespace DeclarationFetch.Resolution

/-! ## Actions -/

/-- What a collaborator is asked to do before any failure, with what it returns. -/
inductive Action : Type → Type
  | cached (key : String) : Action (Option Value)
  | isCached (key : String) : Action Bool
  | store (key text : String) : Action Unit
  | hosted (path : String) : Action (Option String)
  | host (path text : String) : Action Unit
  | makeRoom (path : String) : Action Unit
  | onUpdate (u : Update) : Action Unit
  | onVersions (pins : Pins) : Action Unit

variable {ε ε' α β : Type}

def Collaborators.perform (c : Collaborators ε) : Action α → ε → Except Fault α × ε
  | .cached key => c.cached key
  | .isCached key => c.isCached key
  | .store key text => c.store key text
  | .hosted path => c.hosted path
  | .host path text => c.host path text
  | .makeRoom path => c.makeRoom path
  | .onUpdate u => c.onUpdate u
  | .onVersions pins => c.onVersions pins

def Action.places : Action α → Bool
  | .host .. => true
  | _ => false

def place (c : Collaborators ε) (path text : String) : Walk ε Unit :=
  Walk.act (c.host path text) >>= fun _ => Walk.change fun context => context.inject path

/-- A change that leaves open whether the host got new content. -/
def Context.Spares (f : Context → Context) : Prop := ∀ context, (f context).newImports = context.newImports

/-- Nothing tells two scenes apart but their environments and whether failures are handled. -/
structure Scene.Resembles (s : Scene ε) (s' : Scene ε') : Prop where
  pins : s'.pins = s.pins
  context : s'.context = s.context
  onlySpecified : s'.options.onlySpecifiedPackages = s.options.onlySpecifiedPackages
  preload : s'.options.preloadPackages = s.options.preloadPackages
  updates : s'.options.handlers.updates = s.options.handlers.updates
  versions : s'.options.handlers.versions = s.options.handlers.versions

theorem Scene.Resembles.refl (s : Scene ε) : s.Resembles s := ⟨rfl, rfl, rfl, rfl, rfl, rfl⟩

/-- The walk over a dependency of a source text, on the budget of a pass. -/
def visitOn (c : Collaborators ε) (budget : Budget) (home : Option String) (r : Resource) :
    Walk ε Unit :=
  let cross := across c budget.initialFileDepth.toNat budget.packageDepth.toNat
  visit c cross (along c budget.packageDepth.toNat cross budget.fileDepth.toNat) home r

/-! ## Laws -/

/-- A relation between walks that everything keeps which a pass is made of. A file is retrieved in one
piece, so that what is asked of the source may rest on what the cache did not have, and it goes into the
host in one piece with the mark that it did. -/
structure Parallel (c : Collaborators ε) (c' : Collaborators ε')
    (P : (α : Type) → Walk ε α → Walk ε' α → Prop) : Prop where
  ofExcept : ∀ {α} (result : Except Fault α), P α (.ofExcept result) (.ofExcept result)
  read : ∀ {α} {f : Scene ε → Walk ε α} {f' : Scene ε' → Walk ε' α},
    (∀ s s', s.Resembles s' → P α (f s) (f' s')) → P α (Walk.scene >>= f) (Walk.scene >>= f')
  change : ∀ f : Context → Context, Context.Spares f → P Unit (.change f) (.change f)
  setPins : ∀ pins, P Unit (.setPins pins) (.setPins pins)
  act : ∀ {α} (a : Action α), a.places = false → P α (.act (c.perform a)) (.act (c'.perform a))
  place : ∀ path text, P Unit (place c path text) (place c' path text)
  retrieve : ∀ package path, P _ (retrieve c package path) (retrieve c' package path)
  bind : ∀ {α β} {w : Walk ε α} {w' : Walk ε' α} {f : α → Walk ε β} {f' : α → Walk ε' β},
    P α w w' → (∀ a, P β (f a) (f' a)) → P β (w >>= f) (w' >>= f')
  closing : ∀ {α} {w : Walk ε α} {w' : Walk ε' α} (f : Context → Context), Context.Spares f →
    P α w w' → P α (w.closing f) (w'.closing f)

namespace Parallel

variable {c : Collaborators ε} {c' : Collaborators ε'}
  {P : (α : Type) → Walk ε α → Walk ε' α → Prop} (H : Parallel c c' P)
include H

theorem pure (a : α) : P α (Walk.pure a) (Walk.pure a) := H.ofExcept (.ok a)

theorem raise (fault : Fault) : P α (Walk.raise fault) (Walk.raise fault) := H.ofExcept (.error fault)

omit H in
theorem ite {p : Prop} [Decidable p] {w₁ w₂ : Walk ε α} {w₁' w₂' : Walk ε' α} (h₁ : P α w₁ w₁')
    (h₂ : P α w₂ w₂') : P α (if p then w₁ else w₂) (if p then w₁' else w₂') := by
  split
  · exact h₁
  · exact h₂

theorem each {f : α → Walk ε Unit} {f' : α → Walk ε' Unit} {l : List α}
    (hf : ∀ a, P Unit (f a) (f' a)) : P Unit (Walk.each f l) (Walk.each f' l) := by
  induction l with
  | nil => exact H.pure ()
  | cons a rest ih => exact H.bind (hf a) fun _ => ih

/-! ## Lookups -/

theorem report (u : Update) : P Unit (report c u) (report c' u) := by
  refine H.read fun s s' hs => ?_
  rw [hs.updates]
  exact ite (H.act (.onUpdate u) rfl) (H.pure ())

theorem reportFile (package path : String) (success : Bool) :
    P Unit (reportFile c package path success) (reportFile c' package path success) := H.report _

theorem versionOf (package : String) : P _ (versionOf package) (versionOf package) := by
  refine H.read fun s s' hs => ?_
  rw [hs.pins]
  exact H.pure _

theorem textOf (content : Value) : P _ (textOf content) (textOf content) := by
  cases content with
  | text => exact H.pure _
  | _ => exact H.raise _

theorem inject (path text : String) : P Unit (inject c path text) (inject c' path text) := by
  exact H.bind (H.act (.hosted path) rfl) fun held => ite (H.pure ()) (H.place path text)

theorem replacePins (pins : Pins) : P Unit (replacePins c pins) (replacePins c' pins) := by
  refine H.bind (H.setPins pins) fun _ => H.read fun s s' hs => ?_
  rw [hs.versions]
  exact ite (H.act (.onVersions pins) rfl) (H.pure ())

theorem pin (package version : String) : P Unit (pin c package version) (pin c' package version) := by
  refine H.read fun s s' hs => ?_
  dsimp only
  rw [hs.pins]
  exact ite (H.pure ()) (H.replacePins _)

theorem manifestEntry (package directory subPath : String) (content : Value) (typed : Bool) :
    P _ (manifestEntry c package directory subPath content typed)
      (manifestEntry c' package directory subPath content typed) := by
  refine H.bind (H.textOf content) fun text => H.bind (H.ofExcept _) fun manifest => ?_
  dsimp only
  cases manifest.entry? with
  | none => exact H.pure none
  | some entry =>
    refine H.bind (H.inject _ text) fun _ => ?_
    cases manifest.version? with
    | none => exact H.bind (H.pure ()) fun _ => H.bind (H.report _) fun _ => H.pure _
    | some version =>
      let key := Package.fileKey package (some version) (Path.join [directory, "package.json"])
      refine H.bind (H.pin package version) fun _ => H.bind (H.act (.isCached key) rfl) fun _ => ite ?_ ?_
      · exact H.bind (H.act (.store key text) rfl) fun _ => H.bind (H.report _) fun _ => H.pure _
      · exact H.bind (H.report _) fun _ => H.pure _

theorem manifestFor (package subPath : String) :
    P _ (manifestFor c package subPath) (manifestFor c' package subPath) := by
  refine H.bind (H.retrieve ..) fun o => ?_
  cases o with
  | some content => exact H.pure _
  | none => exact ite (H.pure none) (H.bind (H.retrieve ..) fun _ => H.pure _)

theorem typedEntry (package subPath : String) :
    P _ (typedEntry c package subPath) (typedEntry c' package subPath) := by
  refine H.bind (H.retrieve ..) fun o => ?_
  cases o with
  | none => exact H.pure none
  | some content => exact H.manifestEntry ..

theorem ownOrTypedEntry (package subPath : String) :
    P _ (ownOrTypedEntry c package subPath) (ownOrTypedEntry c' package subPath) := by
  refine H.bind (H.manifestFor ..) fun o => ?_
  match o with
  | none => exact H.pure none
  | some (content, directory) =>
    refine H.bind (H.manifestEntry ..) fun o => ?_
    cases o with
    | some w => exact H.pure (some w)
    | none => exact H.typedEntry ..

theorem packageEntry (package subPath : String) :
    P _ (packageEntry c package subPath) (packageEntry c' package subPath) := by
  have reported : ∀ o : Option Wanted, P _ (do
      if o.isNone then Resolution.report c (.lookedUpPackage package false false)
      return o : Walk ε _) (do
      if o.isNone then Resolution.report c' (.lookedUpPackage package false false)
      return o) := fun o => ite (H.bind (H.report _) fun _ => H.pure o) (H.pure o)
  refine H.read fun s s' hs => ?_
  dsimp only
  rw [hs.onlySpecified, hs.pins]
  exact ite (H.bind (H.pure none) reported) (H.bind (H.ownOrTypedEntry ..) reported)

theorem exactly (package path : String) :
    P _ (exactly c package path) (exactly c' package path) := by
  refine H.bind (H.retrieve ..) fun o => ?_
  cases o with
  | none => exact H.pure none
  | some content => exact H.bind (H.reportFile ..) fun _ => H.pure _

theorem firstOf (package path : String) (endings : List String) :
    P _ (firstOf c package path endings) (firstOf c' package path endings) := by
  induction endings with
  | nil => exact H.pure none
  | cons ending rest ih =>
    refine H.bind (H.retrieve ..) fun o => H.bind (H.report _) fun _ => ?_
    cases o with
    | none => exact ih
    | some content => exact H.bind (H.reportFile ..) fun _ => H.pure _

theorem inDirectory (package path : String) :
    P _ (inDirectory c package path) (inDirectory c' package path) := by
  refine H.bind (H.retrieve ..) fun o => ?_
  cases o with
  | none => exact H.pure none
  | some content =>
    refine H.bind (H.textOf content) fun text => H.bind (H.ofExcept _) fun manifest => ?_
    cases manifest.types? with
    | none => exact H.pure none
    | some types => exact H.exactly ..

theorem orInDirectory (package path : String) (o : Option (Value × String)) :
    P _ (orInDirectory c package path o) (orInDirectory c' package path o) := by
  cases o with
  | some file => exact H.pure (some file)
  | none =>
    refine H.bind (H.inDirectory ..) fun o => ?_
    cases o with
    | some file => exact H.pure (some file)
    | none => exact H.bind (H.reportFile ..) fun _ => H.pure none

theorem sourceFile (w : Wanted) : P _ (sourceFile c w) (sourceFile c' w) := by
  rw [sourceFile_eq, sourceFile_eq]
  refine ite (H.bind (H.reportFile ..) fun _ => H.pure none) (ite ?_ ?_)
  · exact H.bind (H.exactly ..) (H.orInDirectory _ _)
  · exact H.bind (H.firstOf ..) (H.orInDirectory _ _)

/-! ## Expansions -/

theorem mark (key : String) : P Unit (mark key) (mark key) :=
  H.change _ fun context => Context.newImports_mark context key

theorem hostable (hostPath : String) (content : Value) :
    P _ (hostable c hostPath content) (hostable c' hostPath content) := by
  cases content with
  | text => exact H.pure _
  | _ =>
    exact H.bind (H.act (.hosted hostPath) rfl) fun _ =>
      H.bind (H.act (.makeRoom hostPath) rfl) fun _ => H.raise _

section Visits

variable {enter : Enter ε} {enter' : Enter ε'}

theorem once {resource : Resource} {package : String} {f : String → Walk ε Unit}
    {f' : String → Walk ε' Unit} (hf : ∀ key, P Unit (f key) (f' key)) :
    P Unit (once resource package f) (once resource package f') := by
  refine H.bind (H.versionOf package) fun _ => H.read fun s s' hs => ?_
  rw [hs.context]
  exact ite (H.pure ()) (hf _)

theorem openPackage (h : ∀ w, P Unit (enter w) (enter' w)) (package subPath key : String) :
    P Unit (openPackage c enter package subPath key) (openPackage c' enter' package subPath key) := by
  refine H.bind (H.mark key) fun _ => H.bind (H.packageEntry ..) fun entry => ?_
  refine H.bind (H.versionOf package) fun _ => H.bind (H.mark _) fun _ => ?_
  cases entry with
  | none => exact H.pure ()
  | some w => exact H.bind (H.versionOf w.package) fun _ => H.bind (H.mark _) fun _ => h w

theorem visitPackage (h : ∀ w, P Unit (enter w) (enter' w)) (package subPath : String) :
    P Unit (visitPackage c enter package subPath) (visitPackage c' enter' package subPath) := by
  refine H.once fun key => H.read fun s s' hs => ?_
  rw [hs.preload]
  refine ite ?_ (H.openPackage h ..)
  exact H.bind (H.once fun _ => H.openPackage h ..) fun _ => H.openPackage h ..

theorem visitFile (h : ∀ w, P Unit (enter w) (enter' w)) (w : Wanted) :
    P Unit (visitFile enter w) (visitFile enter' w) :=
  H.once fun key => H.bind (H.mark key) fun _ => h w

variable {cross step : Option (Enter ε)} {cross' step' : Option (Enter ε')}
  (hc : Option.Rel (fun enter enter' => ∀ w, P Unit (enter w) (enter' w)) cross cross')
  (hs : Option.Rel (fun enter enter' => ∀ w, P Unit (enter w) (enter' w)) step step')
include hc hs

theorem visit (home : Option String) (r : Resource) :
    P Unit (visit c cross step home r) (visit c' cross' step' home r) := by
  cases r with
  | relative => exact H.pure ()
  | package package subPath =>
    cases hc with
    | none => exact H.pure ()
    | some h => exact H.visitPackage h ..
  | inPackage package source path =>
    unfold Resolution.visit
    by_cases hh : home = some package
    · simp only [if_pos hh]
      cases hs with
      | none => exact H.pure ()
      | some h => exact H.visitFile h _
    · simp only [if_neg hh]
      cases hc with
      | none => exact H.pure ()
      | some h => exact H.visitFile h _

theorem expand (budget : Remaining) (w : Wanted) :
    P Unit (expand c budget cross step w) (expand c' budget cross' step' w) := by
  unfold Resolution.expand
  refine H.bind (H.sourceFile w) fun o => ?_
  match o with
  | none => exact H.pure ()
  | some (content, path) =>
    refine H.bind (H.versionOf w.package) fun version => H.read fun s s' hs' => ?_
    rw [hs'.context]
    refine ite (H.pure ()) (H.bind (H.hostable _ content) fun text => ?_)
    refine H.bind (H.change _ fun _ => rfl) fun _ => ?_
    refine H.bind (H.inject _ text) fun _ => H.bind (H.ofExcept _) fun rs => ?_
    exact H.each (H.visit hc hs _)

theorem expandMarked (budget : Remaining) (w : Wanted) :
    P Unit (expandMarked c budget cross step w) (expandMarked c' budget cross' step' w) :=
  H.bind (H.change _ fun _ => rfl) fun _ => H.closing _ (fun _ => rfl) (H.expand hc hs budget w)

end Visits

section Budgets

variable {crossings : Nat} {cross : Option (Enter ε)} {cross' : Option (Enter ε')}

theorem inPackage (hc : Option.Rel (fun enter enter' => ∀ w, P Unit (enter w) (enter' w)) cross cross')
    (steps : Nat) (w : Wanted) :
    P Unit (inPackage c crossings cross steps w) (inPackage c' crossings cross' steps w) := by
  induction steps generalizing w with
  | zero =>
    unfold Resolution.inPackage
    exact H.expandMarked hc .none _ w
  | succ steps ih =>
    unfold Resolution.inPackage
    exact H.expandMarked hc (.some ih) _ w

theorem across (fileSteps crossings : Nat) :
    Option.Rel (fun enter enter' => ∀ w, P Unit (enter w) (enter' w)) (across c fileSteps crossings)
      (across c' fileSteps crossings) := by
  induction crossings with
  | zero => exact .none
  | succ crossings ih => exact .some (H.inPackage ih fileSteps)

theorem along (hc : Option.Rel (fun enter enter' => ∀ w, P Unit (enter w) (enter' w)) cross cross')
    (steps : Nat) :
    Option.Rel (fun enter enter' => ∀ w, P Unit (enter w) (enter' w)) (along c crossings cross steps)
      (along c' crossings cross' steps) := by
  cases steps with
  | zero => exact .none
  | succ steps => exact .some (H.inPackage hc steps)

end Budgets

/-! ## Passes -/

theorem visitOn (budget : Budget) (home : Option String) (r : Resource) :
    P Unit (visitOn c budget home r) (visitOn c' budget home r) := by
  have hc := H.across budget.initialFileDepth.toNat budget.packageDepth.toNat
  exact H.visit hc (H.along hc budget.fileDepth.toNat) home r

/-- From its own context on, a pass keeps what its branches keep when their failures are handled. -/
theorem course (hb : ∀ {w w'}, P Unit w w' → P Unit (w.rescue (handle c)) (w'.rescue (handle c')))
    (source : String) (parent : Parent) (budget : Budget) :
    P Unit (course c source parent budget) (course c' source parent budget) := by
  refine H.read fun s s' hs => H.bind ?_ fun first => ?_
  · unfold preloads
    rw [hs.preload, hs.pins]
    exact H.ofExcept _
  · refine H.bind (H.ofExcept _) fun rest => H.each fun r => hb ?_
    exact H.visitOn budget (homeOf parent) r

end Parallel

end DeclarationFetch.Resolution
