import DeclarationFetch.Proofs.Resolution.Account
import DeclarationFetch.Proofs.Specifier.Names

/-! # Policies for passes

How the nested expansions of a pass keep what each of them needs, whatever was taken up before.

* `visit_cases`: how a dependency is taken up, or why it is not.
* `Descends`: what an expansion does with the budget that it is given, by the recursion on budgets
  (`inPackage_descends`, `across_descends`, `along_descends`); `across_holds` and `along_holds` are for what
  holds of all expansions alike.
* `Policy c steps`: an account with the budgets on which dependencies may be taken up, and a law for
  each thing that an expansion does.
* `Policy.pass`: a pass keeps to a policy from its first dependencies on.
-/

namespace DeclarationFetch.Resolution

variable {ε : Type} {c : Collaborators ε}

/-! ## Dependencies of files -/

/-- A dependency that leads from a file of the package `home`, or from no package, into a package. -/
def Crosses (home : Option String) : Resource → Prop
  | .package _ _ => True
  | .inPackage package _ _ => home ≠ some package
  | .relative _ _ => False

/-- A dependency that stays in the package `home`. -/
def Stays (home : Option String) : Resource → Prop
  | .inPackage package _ _ => home = some package
  | _ => False

/-- How a dependency is taken up. -/
inductive TakenUp (c : Collaborators ε) (enter : Enter ε) : Resource → Walk ε Unit → Prop
  | package (package subPath : String) :
      TakenUp c enter (.package package subPath) (visitPackage c enter package subPath)
  | file (w : Wanted) : TakenUp c enter w.resource (visitFile enter w)

theorem visit_cases (c : Collaborators ε) (cross step : Option (Enter ε)) (home : Option String)
    (r : Resource) :
    (visit c cross step home r = Walk.pure () ∧ (Crosses home r → cross = none) ∧
      (Stays home r → step = none)) ∨
    ∃ enter, (cross = some enter ∧ Crosses home r ∨ step = some enter ∧ Stays home r) ∧
      TakenUp c enter r (visit c cross step home r) := by
  cases r with
  | relative => exact .inl ⟨rfl, False.elim, False.elim⟩
  | package package subPath =>
    cases cross with
    | none => exact .inl ⟨rfl, fun _ => rfl, False.elim⟩
    | some enter => exact .inr ⟨enter, .inl ⟨rfl, trivial⟩, .package ..⟩
  | inPackage package source path =>
    let w : Wanted := ⟨package, source, path⟩
    unfold visit
    by_cases hh : home = some package
    · simp only [if_pos hh]
      cases step with
      | none => exact .inl ⟨rfl, fun hc => absurd hh hc, fun _ => rfl⟩
      | some enter => exact .inr ⟨enter, .inr ⟨rfl, hh⟩, .file w⟩
    · simp only [if_neg hh]
      cases cross with
      | none => exact .inl ⟨rfl, fun _ => rfl, fun hs => absurd hs hh⟩
      | some enter => exact .inr ⟨enter, .inl ⟨rfl, hh⟩, .file w⟩

def File.dependencies (f : File) : Except Specifier.Fault (List Resource) :=
  Specifier.dependencies f.text (.resource (.inPackage f.package (Path.dirname f.path) ""))

def File.Imports (f : File) (r : Resource) : Prop := ∃ rs, f.dependencies = .ok rs ∧ r ∈ rs

theorem File.imports_iff {f : File} {r : Resource} :
    f.Imports r ↔ r ∈ f.dependencies.toOption.getD [] := by
  unfold File.Imports
  cases f.dependencies with
  | error fault => exact iff_of_false (fun ⟨_, h, _⟩ => nomatch h) List.not_mem_nil
  | ok rs => exact ⟨fun ⟨_, h, hm⟩ => Except.ok.inj h ▸ hm, fun hm => ⟨rs, rfl, hm⟩⟩

/-- The first dependencies of a pass: the preloaded packages, and what the source text imports. -/
inductive First (options : Options) (pins : Pins) (source : String) (parent : Parent) :
    Resource → Prop
  | preloaded {name : String} (ho : options.preloadPackages = true) (h : name ∈ pins.keys) :
      First options pins source parent (.package name "")
  | imported {rs : List Resource} {r : Resource}
      (h : Specifier.dependencies source parent = .ok rs) (hr : r ∈ rs) :
      First options pins source parent r

theorem first_of_preloads {s : Scene ε} {source : String} {parent : Parent} {rs : List Resource}
    (h : preloads s = .ok rs) : ∀ r ∈ rs, First s.options s.pins source parent r := by
  intro r hr
  unfold preloads at h
  split at h
  · next ho =>
    obtain ⟨name, hn, he⟩ := exists_of_mem_mapM h hr
    split at he
    · cases he
    · cases he
      exact .preloaded ho hn
  · cases h
    cases hr

theorem course_ensures {R : Regime ε} {s : Scene ε} {source : String} {parent : Parent}
    {budget : Budget}
    (h : ∀ r s', First s.options s.pins source parent r → R.since s s' →
      let cross := across c budget.initialFileDepth.toNat budget.packageDepth.toNat
      let step := along c budget.packageDepth.toNat cross budget.fileDepth.toNat
      (branch c cross step (homeOf parent) r).Ensures R s' fun _ _ => True) :
    (course c source parent budget).Ensures R s fun _ _ => True := by
  refine .read (.bind (Q := fun rs _ => ∀ r ∈ rs, First s.options s.pins source parent r)
    (.ofExcept fun rs hp => first_of_preloads hp) fun first s₁ _ hs₁ hfirst => ?_)
  refine .bind importsOf_ensures fun rest s₂ _ hs₂ hrest => ?_
  refine .each (P := fun _ _ => True) (fun r _ s₃ hm _ hs₃ _ => ?_) trivial
  refine h r s₃ ?_ (R.trans hs₁ (R.trans hs₂ hs₃))
  rcases List.mem_append.mp hm with hm | hm
  · exact hfirst r hm
  · exact .imported hrest hm

/-! ## The recursion on budgets -/

/-- The expansions that a budget leaves: crossings lead to all the steps, steps to one step less. -/
structure Descends (P : Nat → Nat → Enter ε → Prop) (fileSteps crossings steps : Nat)
    (cross step : Option (Enter ε)) : Prop where
  crosses : ∀ enter, cross = some enter → ∃ n, crossings = n + 1 ∧ P n fileSteps enter
  stays : ∀ enter, step = some enter → ∃ n, steps = n + 1 ∧ P crossings n enter
  noCross : cross = none → crossings = 0
  noStep : step = none → steps = 0

theorem across_eq_none {fileSteps crossings : Nat} (hn : across c fileSteps crossings = none) :
    crossings = 0 := by
  cases crossings with
  | zero => rfl
  | succ crossings => cases hn

section Descent

variable {P : Nat → Nat → Enter ε → Prop} {fileSteps : Nat}
  (h : ∀ crossings steps cross step, Descends P fileSteps crossings steps cross step →
    P crossings steps (expandMarked c ⟨crossings, steps⟩ cross step))
include h

theorem inPackage_descends {crossings : Nat} {cross : Option (Enter ε)}
    (hc : ∀ enter, cross = some enter → ∃ n, crossings = n + 1 ∧ P n fileSteps enter)
    (hn : cross = none → crossings = 0) (steps : Nat) :
    P crossings steps (inPackage c crossings cross steps) := by
  induction steps with
  | zero => exact h crossings 0 cross none ⟨hc, fun _ he => (nomatch he), hn, fun _ => rfl⟩
  | succ steps ih =>
    refine h crossings (steps + 1) cross _ ⟨hc, fun enter he => ⟨steps, rfl, ?_⟩, hn, fun he => ?_⟩
    · cases he
      exact ih
    · cases he

theorem across_descends (crossings : Nat) (enter : Enter ε)
    (he : across c fileSteps crossings = some enter) :
    ∃ n, crossings = n + 1 ∧ P n fileSteps enter := by
  induction crossings generalizing enter with
  | zero => cases he
  | succ crossings ih =>
    cases he
    exact ⟨crossings, rfl, inPackage_descends h ih across_eq_none fileSteps⟩

theorem along_descends (crossings steps : Nat) :
    Descends P fileSteps crossings steps (across c fileSteps crossings)
      (along c crossings (across c fileSteps crossings) steps) where
  crosses := across_descends h crossings
  stays enter he := by
    cases steps with
    | zero => cases he
    | succ n =>
      cases he
      exact ⟨n, rfl, inPackage_descends h (across_descends h crossings) across_eq_none n⟩
  noCross := across_eq_none
  noStep he := by
    cases steps with
    | zero => rfl
    | succ n => cases he

end Descent

/-! What holds of all expansions, whatever budget they leave. -/

section Alike

variable {M : Enter ε → Prop} {fileSteps crossings steps : Nat} {cross step : Option (Enter ε)}

theorem Descends.cross_holds (hd : Descends (fun _ _ => M) fileSteps crossings steps cross step)
    (enter : Enter ε) (he : cross = some enter) : M enter := by
  obtain ⟨_, _, hm⟩ := hd.crosses enter he
  exact hm

theorem Descends.step_holds (hd : Descends (fun _ _ => M) fileSteps crossings steps cross step)
    (enter : Enter ε) (he : step = some enter) : M enter := by
  obtain ⟨_, _, hm⟩ := hd.stays enter he
  exact hm

variable (h : ∀ crossings steps cross step, Descends (fun _ _ => M) fileSteps crossings steps cross step →
  M (expandMarked c ⟨crossings, steps⟩ cross step))
include h

theorem along_holds (crossings steps : Nat) (enter : Enter ε)
    (he : along c crossings (across c fileSteps crossings) steps = some enter) : M enter :=
  (along_descends h crossings steps).step_holds enter he

theorem across_holds (crossings : Nat) (enter : Enter ε)
    (he : across c fileSteps crossings = some enter) : M enter :=
  (along_descends h crossings 0).cross_holds enter he

end Alike

/-! ## Policies -/

/-- An account with the budgets on which dependencies may be taken up. -/
structure Policy (c : Collaborators ε) (fileSteps : Nat) extends Account c where
  /-- A dependency may be taken up, and so many crossings and steps are left to its file. -/
  takes : Nat → Nat → Resource → Scene ε → Prop
  /-- The file of a dependency is being expanded with so many crossings and steps left. -/
  opens : Nat → Nat → Resource → Scene ε → Prop
  takes_of_since : ∀ {a b r s s'}, since s s' → takes a b r s → takes a b r s'
  /-- The dependencies of a file are being taken up with so many crossings and steps left. -/
  parses : Nat → Nat → File → Scene ε → Prop
  opens_of_since : ∀ {a b r s s'}, since s s' → opens a b r s → opens a b r s'
  parses_of_since : ∀ {a b f s s'}, since s s' → parses a b f s → parses a b f s'
  pursued_of_takes : ∀ {a b r s}, takes a b r s → pursued s r
  pursued_of_opens : ∀ {a b r s}, opens a b r s → pursued s r
  marked : ∀ {s} key, valid s → since s { s with context := s.context.mark key }
  /-- With preloading, a path in a package brings up the package as a whole. -/
  root : ∀ {a b package subPath s}, valid s → takes a b (.package package subPath) s →
    s.options.preloadPackages = true → takes a b (.package package "") s
  entered : ∀ {a b r w s}, valid s → takes a b r s → Names (found s) r w →
    let s' : Scene ε := { s with context := s.context.record (.entered w) }
    valid s' ∧ opens a b r s' ∧ Names (found s') r w
  left : ∀ {s s' w}, valid s → valid s' →
    since { s with context := s.context.record (.entered w) } s' →
      since s { s' with context := s'.context.record .left }
  /-- A file is expanded unless it was expanded before. -/
  expanded : ∀ {a b r f s s' version result}, valid s → opens a b r s → Leads (found s) r f →
    Package.fileKey f.package version f.path ∉ s.context.loaded →
      Injected c (Package.hostPath f.package f.path) f.text
        { s with
          context := s.context.record (.expanded f.package version f.path f.text ⟨a, b⟩) } result s' →
        since s s' ∧ parses a b f s'
  crosses : ∀ {a b f r s}, parses (a + 1) b f s → f.Imports r → Crosses (some f.package) r →
    takes a fileSteps r s
  stays : ∀ {a b f r s}, parses a (b + 1) f s → f.Imports r → Stays (some f.package) r →
    takes a b r s

namespace Policy

variable {fileSteps : Nat} (A : Policy c fileSteps) {a b : Nat} {s : Scene ε}

/-- An expansion that is in order wherever a dependency may be taken up on its budget. -/
def Meets (a b : Nat) (enter : Enter ε) : Prop :=
  ∀ r w s, A.takes a b r s → Names (A.found s) r w →
    (enter w).Ensures A.toRegime s fun _ _ => True

theorem mark (key : String) : (mark key : Walk ε Unit).Ensures A.toRegime s fun _ _ => True :=
  .change (A.marked key) fun _ => trivial

/-! ## Taking up dependencies -/

theorem once {resource : Resource} {package : String} {f : String → Walk ε Unit}
    (h : ∀ key, (f key).Ensures A.toRegime s fun _ _ => True) :
    (once resource package f).Ensures A.toRegime s fun _ _ => True := by
  refine .read (.read ?_)
  split
  · exact .pure trivial
  · exact h _

theorem openPackage {enter : Enter ε} {package subPath key : String} (he : A.Meets a b enter)
    (ht : A.takes a b (.package package subPath) s) :
    (openPackage c enter package subPath key).Ensures A.toRegime s fun _ _ => True := by
  refine .bind (A.mark key) fun _ s₁ _ hs₁ _ => ?_
  have ht₁ := A.takes_of_since hs₁ ht
  refine .bind (A.packageEntry (A.pursued_of_takes ht₁)) fun o s₂ _ hs₂ ho => ?_
  refine .read (.bind (A.mark _) fun _ s₃ _ hs₃ _ => ?_)
  cases o with
  | none => exact .pure trivial
  | some w =>
    refine .read (.bind (A.mark _) fun _ s₄ _ hs₄ _ => ?_)
    have hs := A.trans hs₂ (A.trans hs₃ hs₄)
    have hw : FoundEntry (A.found s₂) package subPath (some w) := by
      rcases ho with ⟨_, hn⟩ | ho
      · cases hn
      · exact ho
    refine he _ w s₄ (A.takes_of_since hs ht₁) (.package (hw.mono fun _ _ _ => ?_))
    exact A.found_of_since (A.trans hs₃ hs₄)

theorem visitPackage {enter : Enter ε} {package subPath : String} (he : A.Meets a b enter)
    (ht : A.takes a b (.package package subPath) s) :
    (visitPackage c enter package subPath).Ensures A.toRegime s fun _ _ => True := by
  refine A.once fun key => .read (.of_valid fun hv => ?_)
  split
  · next h =>
    have hr := A.root hv ht h.2
    refine .bind (A.once fun rootKey => A.openPackage he hr) fun _ s₁ _ hs₁ _ => ?_
    exact A.openPackage he (A.takes_of_since hs₁ ht)
  · exact A.openPackage he ht

theorem visitFile {enter : Enter ε} {w : Wanted} (he : A.Meets a b enter)
    (ht : A.takes a b w.resource s) :
    (visitFile enter w).Ensures A.toRegime s fun _ _ => True := by
  refine A.once fun key => .bind (A.mark key) fun _ s₁ _ hs₁ _ => ?_
  exact he _ w s₁ (A.takes_of_since hs₁ ht) (.inPackage ..)

theorem visit {cross step : Option (Enter ε)} {home : Option String} {r : Resource}
    (hc : ∀ enter, cross = some enter → Crosses home r →
      ∃ a b, A.Meets a b enter ∧ A.takes a b r s)
    (hs : ∀ enter, step = some enter → Stays home r → ∃ a b, A.Meets a b enter ∧ A.takes a b r s) :
    (visit c cross step home r).Ensures A.toRegime s fun _ _ => True := by
  rcases visit_cases c cross step home r with ⟨hr, _⟩ | ⟨enter, hway, htaken⟩
  · rw [hr]
    exact .pure trivial
  · obtain ⟨a, b, he, ht⟩ : ∃ a b, A.Meets a b enter ∧ A.takes a b r s := by
      rcases hway with ⟨h, hr⟩ | ⟨h, hr⟩
      · exact hc enter h hr
      · exact hs enter h hr
    generalize Resolution.visit c cross step home r = walk at htaken ⊢
    cases htaken with
    | package => exact A.visitPackage he ht
    | file => exact A.visitFile he ht

/-! ## Expansions -/

theorem expanded_inject {r : Resource} {f : File} {version : Option String}
    (ho : A.opens a b r s) (hl : Leads (A.found s) r f)
    (hnew : Package.fileKey f.package version f.path ∉ s.context.loaded) :
    (do
      Walk.change fun context => context.record (.expanded f.package version f.path f.text ⟨a, b⟩)
      inject c (Package.hostPath f.package f.path) f.text : Walk ε Unit).Ensures A.toRegime s
      fun _ s' => A.parses a b f s' := by
  obtain ⟨result, s', he, hi⟩ := inject_eq_done (c := c) (Package.hostPath f.package f.path) f.text
    { s with context := s.context.record (.expanded f.package version f.path f.text ⟨a, b⟩) }
  refine .of_valid fun hv => .of_eq_done he (fun _ => (A.expanded hv ho hl hnew hi).1) fun _ _ _ _ => ?_
  exact (A.expanded hv ho hl hnew hi).2

theorem expand {cross step : Option (Enter ε)} {r : Resource} {w : Wanted}
    (hd : Descends A.Meets fileSteps a b cross step) (ho : A.opens a b r s)
    (hn : Names (A.found s) r w) :
    (expand c ⟨a, b⟩ cross step w).Ensures A.toRegime s fun _ _ => True := by
  unfold Resolution.expand
  refine .bind (A.sourceFile (A.pursued_of_opens ho) hn) fun o s₁ hv₁ hs₁ hf => ?_
  match o, hf with
  | none, _ => exact .pure trivial
  | some (content, path), hf =>
    have ho₁ := A.opens_of_since hs₁ ho
    have hn₁ := hn.mono fun _ _ _ => A.found_of_since hs₁
    have hr : Route (A.found s₁) (A.pursued s₁) w.package path :=
      .file (A.pursued_of_opens ho₁) hn₁ hf.tried.1 hf.tried.2
    refine .read (.read ?_)
    split
    · exact .pure trivial
    · next hnew =>
      refine .bind (A.hostable hr) fun text s₂ _ _ ht => ?_
      obtain ⟨rfl, rfl⟩ := ht
      let f : File := ⟨w.package, path, text⟩
      have hl : Leads (A.found s₂) r f := ⟨w, hn₁, rfl, hf⟩
      show Walk.Ensures A.toRegime ((_ >>= _) >>= _) s₂ _
      have hnew : Package.fileKey f.package (s₂.pins.version? f.package) f.path ∉ s₂.context.loaded :=
        fun hm => hnew (List.contains_iff_mem.mpr hm)
      refine .bind (A.expanded_inject (f := f) ho₁ hl hnew) fun _ s₃ _ hs₃ hp => ?_
      refine .bind importsOf_ensures fun rs s₄ _ hs₄ hrs => ?_
      refine .each (P := fun _ _ => True) (fun r' _ s₅ hr' _ hs₅ _ => ?_) trivial
      have hp₅ := A.parses_of_since (A.trans hs₄ hs₅) hp
      refine A.visit (fun enter he hc => ?_) fun enter he hh => ?_
      · obtain ⟨n, rfl, hm⟩ := hd.crosses enter he
        exact ⟨n, fileSteps, hm, A.crosses hp₅ ⟨rs, hrs, hr'⟩ hc⟩
      · obtain ⟨n, rfl, hm⟩ := hd.stays enter he
        exact ⟨a, n, hm, A.stays hp₅ ⟨rs, hrs, hr'⟩ hh⟩

theorem expandMarked {cross step : Option (Enter ε)}
    (hd : Descends A.Meets fileSteps a b cross step) :
    A.Meets a b (expandMarked c ⟨a, b⟩ cross step) := by
  intro r w s ht hn
  refine .bracket (Q := fun _ _ => True) (fun hv => (A.entered hv ht hn).1) (fun hv => ?_)
    (fun s' hv hv' hs => A.left hv hv' hs) fun _ _ _ _ _ _ => trivial
  exact A.expand hd (A.entered hv ht hn).2.1 (A.entered hv ht hn).2.2

theorem across_meets (crossings : Nat) (enter : Enter ε)
    (he : across c fileSteps crossings = some enter) :
    ∃ n, crossings = n + 1 ∧ A.Meets n fileSteps enter :=
  across_descends (fun _ _ _ _ => A.expandMarked) crossings enter he

theorem along_meets (crossings steps : Nat) (enter : Enter ε)
    (he : along c crossings (across c fileSteps crossings) steps = some enter) :
    ∃ n, steps = n + 1 ∧ A.Meets crossings n enter :=
  (along_descends (fun _ _ _ _ => A.expandMarked) crossings steps).stays enter he

/-! ## Passes -/

theorem pass_from (source : String) {parent : Parent} {budget : Budget}
    (hfiles : budget.initialFileDepth.toNat = fileSteps)
    (hcross : ∀ r n, First s.options s.pins source parent r → Crosses (homeOf parent) r →
      budget.packageDepth.toNat = n + 1 → A.takes n fileSteps r { s with context := {} })
    (hstay : ∀ r n, First s.options s.pins source parent r → Stays (homeOf parent) r →
      budget.fileDepth.toNat = n + 1 →
        A.takes budget.packageDepth.toNat n r { s with context := {} })
    (hv : A.valid { s with context := {} }) :
    (Resolution.pass c source parent budget s).Ends A.toRegime fun _ s' =>
      A.since { s with context := {} } s' := by
  let s₀ : Scene ε := { s with context := {} }
  have hcourse : (course c source parent budget).Ensures A.toRegime s₀ fun _ _ => True := by
    refine course_ensures fun r s₁ hfr hs => .rescue ?_ fun fault s₂ _ _ => A.handle fault
    rw [hfiles]
    refine A.visit (fun enter he hc => ?_) fun enter he hh => ?_
    · obtain ⟨n, hn, hm⟩ := A.across_meets _ enter he
      exact ⟨n, fileSteps, hm, A.takes_of_since hs (hcross r n hfr hc hn)⟩
    · obtain ⟨n, hn, hm⟩ := A.along_meets _ _ enter he
      exact ⟨_, n, hm, A.takes_of_since hs (hstay r n hfr hh hn)⟩
  rw [pass_eq]
  exact (hcourse.ends hv).mono fun _ _ hr => hr.1

theorem pass (source : String) {parent : Parent} {budget : Budget}
    (hparent : homeOf parent = none) (hfiles : budget.initialFileDepth.toNat = fileSteps)
    (hfirst : ∀ r n, First s.options s.pins source parent r → Crosses none r →
      budget.packageDepth.toNat = n + 1 → A.takes n fileSteps r { s with context := {} })
    (hv : A.valid { s with context := {} }) :
    (pass c source parent budget s).Ends A.toRegime fun _ s' =>
      A.since { s with context := {} } s' := by
  refine A.pass_from source hfiles (fun r n hr hc => hfirst r n hr (hparent ▸ hc)) ?_ hv
  intro r n _ hh
  rw [hparent] at hh
  cases r <;> cases hh

end Policy

/-! ## Accounts of every dependency -/

namespace Account

/-- An account that pursues every dependency, and does not mind which were taken up. -/
structure Impartial (A : Account c) : Prop where
  pursued : ∀ s r, A.pursued s r
  marked : ∀ s key, A.since s { s with context := s.context.mark key }
  recorded : ∀ s m, A.since s { s with context := s.context.record m }

variable {A : Account c}

/-- Whatever a pass may take up keeps to such an account. -/
def Impartial.policy (h : A.Impartial) (fileSteps : Nat) : Policy c fileSteps where
  toAccount := A
  takes _ _ _ _ := True
  opens _ _ _ _ := True
  parses _ _ _ _ := True
  takes_of_since _ _ := trivial
  opens_of_since _ _ := trivial
  parses_of_since _ _ := trivial
  pursued_of_takes _ := h.pursued _ _
  pursued_of_opens _ := h.pursued _ _
  marked key _ := h.marked _ key
  root _ _ _ := trivial
  entered {_ _ _ w s} hv _ hn := by
    have hs := h.recorded s (.entered w)
    exact ⟨A.valid_of_since hs hv, trivial, hn.mono fun _ _ _ => A.found_of_since hs⟩
  left _ _ hs := A.trans (h.recorded _ _) (A.trans hs (h.recorded _ _))
  expanded {a b r f s s' version result} hv _ hl _ hi := by
    have hs := h.recorded s (.expanded f.package version f.path f.text ⟨a, b⟩)
    have hroute := A.route_of_since hs (hl.route (h.pursued s r))
    have hfound := A.found_of_since hs hl.found_text
    exact ⟨A.trans hs (A.injected (A.valid_of_since hs hv) hroute hfound hi), trivial⟩
  crosses _ _ _ := trivial
  stays _ _ _ := trivial

theorem Impartial.pass (h : A.Impartial) (source : String) (parent : Parent) (budget : Budget)
    {s : Scene ε} (hv : A.valid { s with context := {} }) :
    (Resolution.pass c source parent budget s).Ends A.toRegime fun _ s' =>
      A.since { s with context := {} } s' :=
  (h.policy budget.initialFileDepth.toNat).pass_from source rfl (fun _ _ _ _ _ => trivial)
    (fun _ _ _ _ _ => trivial) hv

end Account

end DeclarationFetch.Resolution
