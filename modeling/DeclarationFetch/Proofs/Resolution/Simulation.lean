import DeclarationFetch.Proofs.Resolution.Lookups

/-! # Passes in correspondence

From laws about single actions, that a pass among others ends as the same pass does alone with the
repository.

* `Simulation c c₀`: a correspondence, with a law for each thing that a pass does to its context or
  through its collaborators.
* `Simulation.pass`: what the laws make of a whole pass.
-/

namespace DeclarationFetch.Resolution

variable {ε ε₀ : Type} {c : Collaborators ε} {c₀ : Collaborators ε₀}

/-! ## Laws -/

/-- A correspondence that everything keeps which a pass does in both walks. -/
structure Simulation (c : Collaborators ε) (c₀ : Collaborators ε₀) extends Correspondence ε ε₀ where
  options_eq : ∀ {s s₀}, rel s s₀ → s.options = s₀.options
  pins_eq : ∀ {s s₀}, rel s s₀ → s.pins = s₀.pins
  resolved_eq : ∀ {s s₀}, rel s s₀ → s.context.resolved = s₀.context.resolved
  history_eq : ∀ {s s₀}, rel s s₀ → s.context.history = s₀.context.history
  marked : ∀ {s s₀} key, rel s s₀ →
    rel { s with context := s.context.mark key } { s₀ with context := s₀.context.mark key }
  recorded : ∀ {s s₀} m, rel s s₀ →
    rel { s with context := s.context.record m } { s₀ with context := s₀.context.record m }
  pinned : ∀ {s s₀} pins, rel s s₀ → rel { s with pins := pins } { s₀ with pins := pins }
  retrieved : ∀ {s s₀} package path, (retrieve c package path).Follows toCorrespondence s
    (retrieve c₀ package path) s₀ fun o => ∀ value, o = some value →
      Holds repository package path value
  reported : ∀ {s s₀} u, u.aboutCache = false → (Walk.act (c.onUpdate u)).Follows toCorrespondence s
    (Walk.act (c₀.onUpdate u)) s₀ fun _ => True
  injected : ∀ {s s₀} path text, (inject c path text).Follows toCorrespondence s
    (inject c₀ path text) s₀ fun _ => True
  versioned : ∀ {s s₀} pins, (Walk.act (c.onVersions pins)).Follows toCorrespondence s
    (Walk.act (c₀.onVersions pins)) s₀ fun _ => True
  /-- A manifest goes into the cache under the version that it names. -/
  kept : ∀ {s s₀ package directory text manifest version},
    Holds repository package (Path.join [directory, "package.json"]) (.text text) →
      Manifest.read package text = .ok manifest → manifest.version? = some version →
        let key := Package.fileKey package (some version) (Path.join [directory, "package.json"])
        (keep c key text).Follows toCorrespondence s (keep c₀ key text) s₀ fun _ => True
  failed : ∀ {s s₀} message, (Walk.act (c.onError message)).Follows toCorrespondence s
    (Walk.act (c₀.onError message)) s₀ fun _ => True

namespace Simulation

variable (S : Simulation c c₀) {s : Scene ε} {s₀ : Scene ε₀}

/-! ## Lookups -/

theorem replacePins (pins : Pins) :
    (replacePins c pins).Follows S.toCorrespondence s (replacePins c₀ pins) s₀ fun _ => True := by
  refine .bind (Q := fun _ => True) (.setPins (S.pinned pins) trivial) fun _ _ _ _ _ => ?_
  refine .read fun hr => ?_
  rw [S.options_eq hr]
  exact .ite (fun _ => S.versioned pins) fun _ => .pure trivial

theorem pin (package version : String) :
    (pin c package version).Follows S.toCorrespondence s (pin c₀ package version) s₀
      fun _ => True := by
  refine .read fun hr => ?_
  dsimp only
  rw [S.pins_eq hr]
  exact .ite (fun _ => .pure trivial) fun _ => S.replacePins _

def lookups : Lookups c c₀ where
  toCorrespondence := S.toCorrespondence
  shared _ := True
  served := Holds S.repository
  text_of_served h := h.exists_text
  options_eq := S.options_eq
  pin_eq hr _ := by rw [S.pins_eq hr]
  retrieved path _ := S.retrieved _ path
  reported := S.reported
  injected := S.injected
  pinned _ _ _ _ := S.pin _ _
  kept := S.kept

/-! ## Expansions -/

theorem mark (key : String) :
    (mark key : Walk ε Unit).Follows S.toCorrespondence s (mark key) s₀ fun _ => True :=
  .change (S.marked key) trivial

theorem importsOf (source : String) (parent : Parent) :
    (importsOf source parent : Walk ε _).Follows S.toCorrespondence s (importsOf source parent) s₀
      fun _ => True :=
  .ofExcept fun _ _ => trivial

abbrev Enters (enter : Enter ε) (enter₀ : Enter ε₀) : Prop :=
  ∀ w s s₀, (enter w).Follows S.toCorrespondence s (enter₀ w) s₀ fun _ => True

section Visits

variable {enter : Enter ε} {enter₀ : Enter ε₀}

theorem once {resource : Resource} {package : String} {f : String → Walk ε Unit}
    {f₀ : String → Walk ε₀ Unit}
    (hf : ∀ key s s₀, (f key).Follows S.toCorrespondence s (f₀ key) s₀ fun _ => True) :
    (once resource package f).Follows S.toCorrespondence s (once resource package f₀) s₀
      fun _ => True := by
  refine .bind (S.lookups.versionOf trivial) fun version s₁ s₁' _ _ => .read fun hr => ?_
  rw [S.resolved_eq hr]
  exact .ite (fun _ => .pure trivial) fun _ => hf ..

theorem openPackage (h : S.Enters enter enter₀) (package subPath key : String) :
    (openPackage c enter package subPath key).Follows S.toCorrespondence s
      (openPackage c₀ enter₀ package subPath key) s₀ fun _ => True := by
  refine .bind (S.mark key) fun _ _ _ _ _ => ?_
  refine .bind (S.lookups.packageEntry trivial trivial subPath) fun entry _ _ _ _ => ?_
  refine .bind (S.lookups.versionOf trivial) fun _ _ _ _ _ => .bind (S.mark _) fun _ _ _ _ _ => ?_
  cases entry with
  | none => exact .pure trivial
  | some w =>
    exact .bind (S.lookups.versionOf trivial) fun _ _ _ _ _ => .bind (S.mark _) fun _ _ _ _ _ => h ..

theorem visitPackage (h : S.Enters enter enter₀) (package subPath : String) :
    (visitPackage c enter package subPath).Follows S.toCorrespondence s
      (visitPackage c₀ enter₀ package subPath) s₀ fun _ => True := by
  refine S.once fun key s₁ s₁' => .read fun hr => ?_
  rw [S.options_eq hr]
  refine .ite (fun _ => ?_) fun _ => S.openPackage h ..
  exact .bind (S.once fun _ _ _ => S.openPackage h ..) fun _ _ _ _ _ => S.openPackage h ..

theorem visitFile (h : S.Enters enter enter₀) (w : Wanted) :
    (visitFile enter w).Follows S.toCorrespondence s (visitFile enter₀ w) s₀ fun _ => True :=
  S.once fun key _ _ => .bind (S.mark key) fun _ _ _ _ _ => h ..

variable {cross step : Option (Enter ε)} {cross₀ step₀ : Option (Enter ε₀)}
  (hc : Option.Rel S.Enters cross cross₀) (hs : Option.Rel S.Enters step step₀)
include hc hs

theorem visit (home : Option String) (r : Resource) :
    (visit c cross step home r).Follows S.toCorrespondence s (visit c₀ cross₀ step₀ home r) s₀
      fun _ => True := by
  cases r with
  | relative => exact .pure trivial
  | package package subPath =>
    cases hc with
    | none => exact .pure trivial
    | some h => exact S.visitPackage h ..
  | inPackage package source path =>
    unfold Resolution.visit
    by_cases hh : home = some package
    · simp only [if_pos hh]
      cases hs with
      | none => exact .pure trivial
      | some h => exact S.visitFile h _
    · simp only [if_neg hh]
      cases hc with
      | none => exact .pure trivial
      | some h => exact S.visitFile h _

theorem expand (budget : Remaining) (w : Wanted) :
    (expand c budget cross step w).Follows S.toCorrespondence s (expand c₀ budget cross₀ step₀ w) s₀
      fun _ => True := by
  unfold Resolution.expand
  refine .bind (S.lookups.sourceFile trivial) fun o s₁ s₁' _ ho => ?_
  match o, ho with
  | none, _ => exact .pure trivial
  | some (content, path), ho =>
    obtain ⟨text, rfl⟩ := ho content path rfl
    refine .bind (S.lookups.versionOf trivial) fun version s₂ s₂' _ _ => .read fun hr => ?_
    have hloaded : s₂.context.loaded = s₂'.context.loaded :=
      congrArg (List.filterMap Context.expandedKey?) (S.history_eq hr)
    rw [hloaded]
    refine .ite (fun _ => .pure trivial) fun _ => ?_
    refine .bind (Q := fun _ => True) (.pure trivial) fun _ _ _ _ _ => ?_
    refine .bind (Q := fun _ => True) (.change (S.recorded _) trivial) fun _ _ _ _ _ => ?_
    refine .bind (S.injected ..) fun _ _ _ _ _ => .bind (S.importsOf ..) fun rs _ _ _ _ => ?_
    exact .each fun r _ _ _ => visit S hc hs ..

theorem expandMarked (budget : Remaining) :
    S.Enters (expandMarked c budget cross step) (expandMarked c₀ budget cross₀ step₀) :=
  fun w _ _ => .bind (Q := fun _ => True) (.change (S.recorded _) trivial) fun _ _ _ _ _ =>
    .closing (expand S hc hs budget w) fun _ _ => S.recorded _

end Visits

theorem inPackage (crossings : Nat) {cross : Option (Enter ε)} {cross₀ : Option (Enter ε₀)}
    (hc : Option.Rel S.Enters cross cross₀) (steps : Nat) :
    S.Enters (inPackage c crossings cross steps) (inPackage c₀ crossings cross₀ steps) := by
  induction steps with
  | zero =>
    unfold Resolution.inPackage
    exact S.expandMarked hc .none _
  | succ steps ih =>
    unfold Resolution.inPackage
    exact S.expandMarked hc (.some ih) _

theorem across (fileSteps crossings : Nat) :
    Option.Rel S.Enters (across c fileSteps crossings) (across c₀ fileSteps crossings) := by
  induction crossings with
  | zero => exact .none
  | succ crossings ih => exact .some (S.inPackage crossings ih fileSteps)

theorem along (crossings : Nat) {cross : Option (Enter ε)} {cross₀ : Option (Enter ε₀)}
    (hc : Option.Rel S.Enters cross cross₀) (steps : Nat) :
    Option.Rel S.Enters (along c crossings cross steps) (along c₀ crossings cross₀ steps) := by
  cases steps with
  | zero => exact .none
  | succ steps => exact .some (S.inPackage crossings hc steps)

/-! ## Passes -/

theorem handle (fault : Fault) :
    (handle c fault).Follows S.toCorrespondence s (handle c₀ fault) s₀ fun _ => True := by
  refine .read fun hr => ?_
  rw [S.options_eq hr]
  match fault.handled?, s₀.options.handlers.errors with
  | some message, true => exact S.failed message
  | some message, false => exact .raise _
  | none, _ => exact .raise _

theorem preloads_eq (hr : S.rel s s₀) : preloads s = preloads s₀ := by
  unfold preloads
  rw [S.options_eq hr, S.pins_eq hr]

/-- From scenes that belong together but for their contexts, which a pass begins anew. -/
theorem pass (source : String) (parent : Parent) (budget : Budget)
    (hr : S.rel { s with context := {} } { s₀ with context := {} }) :
    (pass c source parent budget s).Ends S.regime fun result s' =>
      ∃ s₀', (pass c₀ source parent budget s₀).outcome S.repository = (result, s₀') ∧
        S.rel s' s₀' := by
  have hcross := S.across budget.initialFileDepth.toNat budget.packageDepth.toNat
  have hstep := S.along budget.packageDepth.toNat hcross budget.fileDepth.toNat
  have hcourse : (course c source parent budget).Follows S.toCorrespondence { s with context := {} }
      (course c₀ source parent budget) { s₀ with context := {} } fun _ => True := by
    refine .read fun hr => ?_
    rw [S.preloads_eq hr]
    refine .bind (.ofExcept (Q := fun _ => True) fun _ _ => trivial) fun first s₁ s₁' _ _ => ?_
    refine .bind (S.importsOf ..) fun rest s₂ s₂' _ _ => .each fun r _ _ _ => ?_
    exact .rescue (S.visit hcross hstep ..) fun fault _ _ => S.handle fault
  rw [pass_eq, pass_eq]
  exact (hcourse.ends hr).mono fun _ _ ⟨s₀', ho, hr', _⟩ => ⟨s₀', ho, hr'⟩

end Simulation

end DeclarationFetch.Resolution
