import DeclarationFetch.Proofs.Resolution.Policy
import DeclarationFetch.Proofs.Resolution.Watch

/-! # Passes over specified packages only

Which packages a pass asks for when it is to look up specified packages only.

* `Specified pins package`: a package that is pinned, or that comes from a pinned one by going to the
  package that declares its types, or back.
* `Origin.Warrants`: specified packages, and two kinds of packages that nothing keeps out: the
  declarations of the runtime, where a text names them, and the package that the source text lies in.
* `Gated`: what each part of a pass keeps. A package is looked up behind the gate only, so that versions
  are pinned for specified packages alone; a file is looked up in a package that is warranted.
* `pass_specified`: every request of a pass is for a package that is warranted.
-/

namespace DeclarationFetch.Resolution

variable {ε α : Type} {c : Collaborators ε}

/-! ## Specified packages -/

/-- The smallest set with the pinned packages that is closed under going from a package to the one that
declares its types, and back. -/
inductive Specified (pins : Pins) : String → Prop
  | pinned {package : String} (h : pins.contains package = true) : Specified pins package
  | typed {package : String} (h : Specified pins package) :
      Specified pins (Package.definitelyTyped package)
  | untyped {package : String} (h : Specified pins (Package.definitelyTyped package)) :
      Specified pins package

theorem not_specified_of_isEmpty {pins : Pins} (h : pins.isEmpty = true) (package : String) :
    ¬ Specified pins package := by
  rw [Assoc.eq_empty_of_isEmpty h]
  intro hs
  induction hs with
  | pinned h => cases h
  | typed _ ih => exact ih
  | untyped _ ih => exact ih

def PinsWithin (origin pins : Pins) : Prop :=
  ∀ package, pins.contains package = true → Specified origin package

theorem PinsWithin.insert {origin pins : Pins} {package : String} (h : PinsWithin origin pins)
    (hs : Specified origin package) (version : Value) :
    PinsWithin origin (pins.insert package version) := by
  intro other ho
  unfold Assoc.contains at ho
  rw [Assoc.get?_insert] at ho
  split at ho
  · next he => exact he ▸ hs
  · exact h other ho

/-- What the gate lets through is specified, with the package that declares its types. -/
theorem PinsWithin.of_isSpecified {origin pins : Pins} {package : String}
    (h : PinsWithin origin pins) (hs : isSpecified pins package = true) : Specified origin package := by
  rcases Bool.or_eq_true_iff.mp hs with hs | hs
  · exact h package hs
  · exact .untyped (h _ hs)

/-- Others pin specified packages only, as other passes on the same terms do. -/
def Play.PinsSpecified (play : Play ε) (origin : Pins) : Prop :=
  ∀ n request s, PinsWithin origin s.pins → PinsWithin origin (play.pins n request s)

theorem Play.KeepsPins.pinsSpecified {play : Play ε} (h : play.KeepsPins) (origin : Pins) :
    play.PinsSpecified origin := by
  intro n request s hs
  rwa [h n request s]

/-! ## Dependencies on files of packages -/

def ImportsSome (kind : String → Bool) (source : String) : Prop :=
  ∃ specifier ∈ Specifier.extract source, kind specifier = true

def ImportsRuntime : String → Prop := ImportsSome fun specifier => (Specifier.nodeName? specifier).isSome

/-- A dependency on a file of a package is on one of the runtime's or of the parent's package. -/
theorem inPackage_of_dependencies {source : String} {parent : Parent} {rs : List Resource}
    {package directory path : String} (h : Specifier.dependencies source parent = .ok rs)
    (hr : .inPackage package directory path ∈ rs) :
    package = Specifier.nodeTypes ∧ ImportsRuntime source ∨
      homeOf parent = some package ∧ ImportsSome Specifier.isRelative source := by
  obtain ⟨specifier, hm, hc⟩ := exists_of_mem_mapM h hr
  unfold Specifier.classify at hc
  have hpackage : Specifier.packageOf specifier ≠ .ok (.inPackage package directory path) := by
    unfold Specifier.packageOf
    dsimp only
    split
    · exact fun he => nomatch he
    · exact fun he => nomatch he
  split at hc
  · next name hname =>
    cases hc
    exact .inl ⟨rfl, specifier, hm, by simp [hname]⟩
  · split at hc
    · split at hc
      · cases hc
      · exact absurd hc hpackage
    · split at hc
      · next hrel =>
        cases hc
        exact .inr ⟨rfl, path, hm, hrel⟩
      · exact absurd hc hpackage
    · cases hc
    · cases hc

/-! ## Warrants -/

/-- What a pass starts from. -/
structure Origin where
  pins : Pins
  source : String
  home : Option String

/-- The source text or a file that was expanded imports declarations of the runtime. -/
def Origin.SearchesRuntime (o : Origin) (history : List Milestone) : Prop :=
  ImportsRuntime o.source ∨
    ∃ package version path text budget,
      .expanded package version path text budget ∈ history ∧ ImportsRuntime text

/-- Why a package is asked for. -/
inductive Origin.Warrants (o : Origin) (history : List Milestone) (package : String) : Prop
  | specified (h : Specified o.pins package)
  | runtime (h : package = Specifier.nodeTypes) (hs : o.SearchesRuntime history)
  | home (h : o.home = some package) (hs : ImportsSome Specifier.isRelative o.source)

theorem Origin.SearchesRuntime.mono {o : Origin} {history history' : List Milestone}
    (hl : history ⊆ history') (h : o.SearchesRuntime history) : o.SearchesRuntime history' := by
  refine h.imp_right fun ⟨package, version, path, text, budget, hm, ht⟩ => ?_
  exact ⟨package, version, path, text, budget, hl hm, ht⟩

theorem Origin.Warrants.mono {o : Origin} {history history' : List Milestone} {package : String}
    (hl : history ⊆ history') (h : o.Warrants history package) : o.Warrants history' package := by
  cases h with
  | specified h => exact .specified h
  | runtime h hs => exact .runtime h (hs.mono hl)
  | home h hs => exact .home h hs

namespace Gated

/-! ## The regime -/

/-- More was done, and no package was pinned but specified ones. -/
structure Since (o : Origin) (s s' : Scene ε) : Prop where
  options : s'.options = s.options
  history : s.context.history ⊆ s'.context.history
  pins : PinsWithin o.pins s.pins → PinsWithin o.pins s'.pins

theorem Since.trans {o : Origin} {s s' s'' : Scene ε} (h : Since o s s') (h' : Since o s' s'') :
    Since o s s'' where
  options := h'.options.trans h.options
  history := List.Subset.trans h.history h'.history
  pins := h'.pins ∘ h.pins

/-- Only specified packages are to be looked up, and only they are pinned. -/
structure Valid (o : Origin) (s : Scene ε) : Prop where
  options : s.options.onlySpecifiedPackages = true
  pins : PinsWithin o.pins s.pins

def regime (ε : Type) (o : Origin) : Regime ε where
  asks request s := Valid o s ∧ o.Warrants s.context.history request.package
  answers _ s _ s' := s'.options = s.options ∧ s'.context = s.context ∧
    (PinsWithin o.pins s.pins → PinsWithin o.pins s'.pins)
  valid := Valid o
  since := Since o
  refl _ := ⟨rfl, List.Subset.refl _, id⟩
  trans := Since.trans
  valid_of_since h hv := ⟨h.options ▸ hv.options, h.pins hv.pins⟩

abbrev Keeps (o : Origin) (w : Walk ε α) (s : Scene ε) (Q : α → Scene ε → Prop) : Prop :=
  w.Ensures (regime ε o) s Q

def Meets (o : Origin) (enter : Enter ε) : Prop :=
  ∀ w s, o.Warrants s.context.history w.package → Keeps o (enter w) s fun _ _ => True

variable {o : Origin} {s : Scene ε} {package : String}

/-! ## Parts of lookups -/

theorem act (f : ε → Except Fault α × ε) : Keeps o (Walk.act f) s fun _ _ => True :=
  .act (fun _ => ⟨rfl, List.Subset.refl _, id⟩) fun _ _ _ => trivial

theorem report (u : Update) : Keeps o (report c u) s fun _ _ => True := by
  refine .read ?_
  split
  · exact act _
  · exact .pure trivial

theorem textOf (content : Value) : Keeps o (textOf content : Walk ε _) s fun _ _ => True := by
  cases content with
  | text t => exact .pure trivial
  | _ => exact .raise _

theorem retrieve (h : o.Warrants s.context.history package) (path : String) :
    Keeps o (retrieve c package path) s fun _ _ => True := by
  refine .read (.bind (act _) fun found s₁ hv₁ hs₁ _ => ?_)
  cases found with
  | some value => exact .bind (report _) fun _ _ _ _ _ => .pure trivial
  | none =>
    have asked : Keeps o (Walk.request ⟨package, path, s.pins.pin package⟩) s₁ fun _ _ => True := by
      refine .request (fun hv => ⟨hv, h.mono hs₁.history⟩) fun answer s₂ _ ha => ?_
      obtain ⟨ho, hc, hp⟩ := ha
      exact ⟨⟨ho, by rw [hc]; exact List.Subset.refl _, hp⟩, fun _ _ => trivial⟩
    refine .bind asked fun found s₂ _ _ _ => ?_
    cases found with
    | none => exact .pure trivial
    | some text =>
      exact .bind (act _) fun _ _ _ _ _ => .bind (report _) fun _ _ _ _ _ => .pure trivial

theorem since_of_injected {path text : String} {s' : Scene ε} {result : Except Fault Unit}
    (h : Injected c path text s result s') : Since o s s' :=
  ⟨h.options_eq, by rw [h.history_eq]; exact List.Subset.refl _, by rw [h.pins_eq]; exact id⟩

theorem inject (path text : String) : Keeps o (inject c path text) s fun _ _ => True := by
  obtain ⟨result, s', he, hi⟩ := inject_eq_done (c := c) path text s
  exact .of_eq_done he (fun _ => since_of_injected hi) fun _ _ _ _ => trivial

theorem hostable (path : String) (content : Value) :
    Keeps o (hostable c path content) s fun _ _ => True := by
  cases content with
  | text t => exact .pure trivial
  | _ => exact .bind (act _) fun _ _ _ _ _ => .bind (act _) fun _ _ _ _ _ => .raise _

/-! ## Entries of packages -/

theorem pin (h : Specified o.pins package) (version : String) :
    Keeps o (pin c package version) s fun _ _ => True := by
  refine .read ?_
  dsimp only
  split
  · exact .pure trivial
  · refine .bind (Q := fun _ _ => True) ?_ fun _ _ _ _ _ => .read ?_
    · refine .setPins (fun _ => ⟨rfl, List.Subset.refl _, fun hp => ?_⟩) fun _ => trivial
      exact hp.insert h _
    · split
      · exact act _
      · exact .pure trivial

def EntrySpecified (o : Origin) (entry : Option Wanted) : Prop :=
  ∀ w, entry = some w → Specified o.pins w.package

theorem manifestEntry (h : Specified o.pins package) (directory subPath : String) (content : Value)
    (typed : Bool) :
    Keeps o (manifestEntry c package directory subPath content typed) s
      fun entry _ => EntrySpecified o entry := by
  refine .bind (textOf content) fun text _ _ _ _ => ?_
  refine .bind (Q := fun _ _ => True) (.ofExcept fun _ _ => trivial) fun manifest _ _ _ _ => ?_
  cases manifest.entry? with
  | none => exact .pure fun _ he => nomatch he
  | some entry =>
    have named : ∀ s, Keeps o (do
        Resolution.report c (.lookedUpPackage package typed true)
        pure (some ⟨package, "", entryPath directory subPath entry⟩) : Walk ε _) s
          fun entry _ => EntrySpecified o entry := fun s => by
      refine .bind (report _) fun _ _ _ _ _ => .pure fun w he => ?_
      cases he
      exact h
    refine .bind (inject _ text) fun _ _ _ _ _ => ?_
    cases manifest.version? with
    | none => exact .bind (Q := fun _ _ => True) (.pure trivial) fun _ s₁ _ _ _ => named s₁
    | some version =>
      refine .bind (pin h version) fun _ _ _ _ _ => .bind (act _) fun known s₁ _ _ _ => ?_
      split
      · exact .bind (act _) fun _ s₂ _ _ _ => named s₂
      · exact named s₁

theorem manifestFor (h : Specified o.pins package) (subPath : String) :
    Keeps o (manifestFor c package subPath) s fun _ _ => True := by
  refine .bind (retrieve (.specified h) _) fun content _ _ _ _ => ?_
  cases content with
  | some content => exact .pure trivial
  | none =>
    dsimp only
    split
    · exact .pure trivial
    · exact .bind (retrieve (.specified h) _) fun _ _ _ _ _ => .pure trivial

theorem typedEntry (h : Specified o.pins package) (subPath : String) :
    Keeps o (typedEntry c package subPath) s fun entry _ => EntrySpecified o entry := by
  refine .bind (retrieve (.specified h.typed) _) fun content _ _ _ _ => ?_
  cases content with
  | none => exact .pure fun _ he => nomatch he
  | some content => exact manifestEntry h.typed "" subPath content true

theorem ownOrTypedEntry (h : Specified o.pins package) (subPath : String) :
    Keeps o (ownOrTypedEntry c package subPath) s fun entry _ => EntrySpecified o entry := by
  refine .bind (manifestFor h subPath) fun found _ _ _ _ => ?_
  match found with
  | none => exact .pure fun _ he => nomatch he
  | some (content, directory) =>
    refine .bind (manifestEntry h directory subPath content false) fun entry _ _ _ he => ?_
    cases entry with
    | some w => exact .pure he
    | none => exact typedEntry h subPath

/-- No package is looked up that is not specified. -/
theorem packageEntry (package subPath : String) :
    Keeps o (packageEntry c package subPath) s fun entry _ => EntrySpecified o entry := by
  have told : ∀ (entry : Option Wanted) s, EntrySpecified o entry → Keeps o (do
      if entry.isNone then Resolution.report c (.lookedUpPackage package false false)
      return entry : Walk ε _) s fun entry _ => EntrySpecified o entry := fun entry s he => by
    dsimp only
    split
    · exact .bind (report _) fun _ _ _ _ _ => .pure he
    · exact .pure he
  -- The gate asks the pins of the moment, so it takes what the walk has kept of them until now.
  refine .of_valid fun hv => .read ?_
  dsimp only
  split
  · refine .bind (Q := fun entry _ => EntrySpecified o entry) (.pure fun _ he => nomatch he) ?_
    exact fun entry s₁ _ _ he => told entry s₁ he
  · next hgate =>
    have hopen : isSpecified s.pins package = true := by simpa [hv.options] using hgate
    have h : Specified o.pins package := hv.pins.of_isSpecified hopen
    exact .bind (ownOrTypedEntry h subPath) fun entry s₁ _ _ he => told entry s₁ he

/-! ## Files of imports -/

theorem exactly (h : o.Warrants s.context.history package) (path : String) :
    Keeps o (exactly c package path) s fun _ _ => True := by
  refine .bind (retrieve h path) fun content _ _ _ _ => ?_
  cases content with
  | none => exact .pure trivial
  | some content => exact .bind (report _) fun _ _ _ _ _ => .pure trivial

theorem firstOf (h : o.Warrants s.context.history package) (path : String) (endings : List String) :
    Keeps o (firstOf c package path endings) s fun _ _ => True := by
  induction endings generalizing s with
  | nil => exact .pure trivial
  | cons ending rest ih =>
    refine .bind (retrieve h _) fun content s₁ _ hs₁ _ => .bind (report _) fun _ s₂ _ hs₂ _ => ?_
    cases content with
    | none => exact ih (h.mono (hs₁.trans hs₂).history)
    | some content => exact .bind (report _) fun _ _ _ _ _ => .pure trivial

theorem inDirectory (h : o.Warrants s.context.history package) (path : String) :
    Keeps o (inDirectory c package path) s fun _ _ => True := by
  refine .bind (retrieve h _) fun content s₁ _ hs₁ _ => ?_
  cases content with
  | none => exact .pure trivial
  | some content =>
    refine .bind (textOf content) fun text s₂ _ hs₂ _ => ?_
    refine .bind (Q := fun _ _ => True) (.ofExcept fun _ _ => trivial) fun manifest s₃ _ hs₃ _ => ?_
    cases manifest.types? with
    | none => exact .pure trivial
    | some types => exact exactly (h.mono (hs₁.trans (hs₂.trans hs₃)).history) _

theorem orInDirectory (h : o.Warrants s.context.history package) (path : String)
    (file : Option (Value × String)) :
    Keeps o (orInDirectory c package path file) s fun _ _ => True := by
  cases file with
  | some file => exact .pure trivial
  | none =>
    refine .bind (inDirectory h path) fun file _ _ _ _ => ?_
    cases file with
    | some file => exact .pure trivial
    | none => exact .bind (report _) fun _ _ _ _ _ => .pure trivial

theorem sourceFile {w : Wanted} (h : o.Warrants s.context.history w.package) :
    Keeps o (sourceFile c w) s fun _ _ => True := by
  rw [sourceFile_eq]
  split
  · exact .bind (report _) fun _ _ _ _ _ => .pure trivial
  · split
    · exact .bind (exactly h _) fun file _ _ hs _ => orInDirectory (h.mono hs.history) _ file
    · exact .bind (firstOf h _ _) fun file _ _ hs _ => orInDirectory (h.mono hs.history) _ file

/-! ## Dependencies -/

theorem mark (key : String) : Keeps o (mark key : Walk ε Unit) s fun _ _ => True := by
  refine .change (fun _ => ⟨rfl, ?_, id⟩) fun _ => trivial
  rw [Context.history_mark]
  exact List.Subset.refl _

theorem once {r : Resource} {f : String → Walk ε Unit}
    (h : ∀ key, Keeps o (f key) s fun _ _ => True) :
    Keeps o (once r package f) s fun _ _ => True := by
  refine .read (.read ?_)
  split
  · exact .pure trivial
  · exact h _

theorem openPackage {enter : Enter ε} (he : Meets o enter) (package subPath key : String) :
    Keeps o (openPackage c enter package subPath key) s fun _ _ => True := by
  refine .bind (mark key) fun _ _ _ _ _ => .bind (packageEntry package subPath) fun entry _ _ _ h => ?_
  refine .read (.bind (mark _) fun _ _ _ _ _ => ?_)
  cases entry with
  | none => exact .pure trivial
  | some w => exact .read (.bind (mark _) fun _ s₁ _ _ _ => he w s₁ (.specified (h w rfl)))

theorem visitPackage {enter : Enter ε} (he : Meets o enter) (package subPath : String) :
    Keeps o (visitPackage c enter package subPath) s fun _ _ => True := by
  refine once fun key => .read ?_
  split
  · refine .bind (once fun rootKey => openPackage he package "" rootKey) fun _ _ _ _ _ => ?_
    exact openPackage he package subPath key
  · exact openPackage he package subPath key

/-- A dependency that is in a package is in one that is warranted; one on a package is not looked into
before the gate. -/
def Admits (o : Origin) (history : List Milestone) (r : Resource) : Prop :=
  ∀ package directory path, r = .inPackage package directory path → o.Warrants history package

theorem visit {cross step : Option (Enter ε)} (hcross : ∀ enter, cross = some enter → Meets o enter)
    (hstep : ∀ enter, step = some enter → Meets o enter) (home : Option String) {r : Resource}
    (hr : Admits o s.context.history r) :
    Keeps o (visit c cross step home r) s fun _ _ => True := by
  rcases visit_cases c cross step home r with ⟨hnone, _⟩ | ⟨enter, hway, htaken⟩
  · rw [hnone]
    exact .pure trivial
  · have he : Meets o enter := hway.elim (fun h => hcross enter h.1) fun h => hstep enter h.1
    generalize Resolution.visit c cross step home r = walk at htaken ⊢
    cases htaken with
    | package package subPath => exact visitPackage he package subPath
    | file w =>
      refine once fun key => .bind (mark key) fun _ s₁ _ hs₁ _ => he _ s₁ ?_
      exact (hr _ _ _ rfl).mono hs₁.history

/-! ## Expansions -/

/-- What an expanded file imports from a package, it imports from its own or from the runtime. -/
theorem admits_of_expanded {package path text : String} {version : Option String} {budget : Remaining}
    {history : List Milestone} {rs : List Resource} {r : Resource}
    (hm : .expanded package version path text budget ∈ history) (hw : o.Warrants history package)
    (h : Specifier.dependencies text (.resource (.inPackage package (Path.dirname path) "")) = .ok rs)
    (hr : r ∈ rs) : Admits o history r := by
  rintro other directory source rfl
  rcases inPackage_of_dependencies h hr with ⟨he, hn⟩ | ⟨he, _⟩
  · exact .runtime he (.inr ⟨package, version, path, text, budget, hm, hn⟩)
  · cases he
    exact hw

theorem expand {budget : Remaining} {cross step : Option (Enter ε)}
    (hcross : ∀ enter, cross = some enter → Meets o enter)
    (hstep : ∀ enter, step = some enter → Meets o enter) {w : Wanted}
    (h : o.Warrants s.context.history w.package) :
    Keeps o (expand c budget cross step w) s fun _ _ => True := by
  refine .bind (sourceFile h) fun file s₁ _ hs₁ _ => ?_
  match file with
  | none => exact .pure trivial
  | some (content, path) =>
    refine .read (.read ?_)
    split
    · exact .pure trivial
    · refine .bind (hostable _ content) fun text s₂ _ hs₂ _ => ?_
      let version := s₁.pins.version? w.package
      have hput : Keeps o (Walk.change fun context =>
          context.record (.expanded w.package version path text budget)) s₂
          fun _ s' => .expanded w.package version path text budget ∈ s'.context.history := by
        refine .change (fun _ => ⟨rfl, List.subset_cons_self .., id⟩) fun _ => ?_
        exact List.mem_cons_self ..
      -- From here on the history tells that the text is searched, which is what warrants the runtime.
      refine .bind hput fun _ s₃ _ hs₃ hm => .bind (inject _ text) fun _ s₄ _ hs₄ _ => ?_
      have hw₄ := h.mono (hs₁.trans (hs₂.trans (hs₃.trans hs₄))).history
      refine .bind importsOf_ensures fun rs s₅ _ hs₅ hrs => ?_
      refine .each (P := fun _ _ => True) (fun r _ s₆ hr _ hs₆ _ => visit hcross hstep _ ?_) trivial
      have hlater := (hs₅.trans hs₆).history
      exact admits_of_expanded (hlater (hs₄.history hm)) (hw₄.mono hlater) hrs hr

theorem expandMarked {budget : Remaining} {cross step : Option (Enter ε)}
    (hcross : ∀ enter, cross = some enter → Meets o enter)
    (hstep : ∀ enter, step = some enter → Meets o enter) :
    Meets o (expandMarked c budget cross step) := by
  intro w s h
  refine .bracket (Q := fun _ _ => True) (fun hv => ⟨hv.options, hv.pins⟩) (fun _ => ?_)
    (fun s' _ _ hs => ?_) fun _ _ _ _ _ _ => trivial
  · exact expand hcross hstep (h.mono (List.subset_cons_self ..))
  · refine ⟨hs.options, fun m hm => ?_, hs.pins⟩
    exact List.mem_cons_of_mem _ (hs.history (List.mem_cons_of_mem _ hm))

theorem expandMarked_of_descends (fileSteps crossings steps : Nat) (cross step : Option (Enter ε))
    (hd : Descends (fun _ _ => Meets o) fileSteps crossings steps cross step) :
    Meets o (Resolution.expandMarked c ⟨crossings, steps⟩ cross step) :=
  expandMarked hd.cross_holds hd.step_holds

/-! ## Passes -/

theorem admits_of_first {options : Options} {pins : Pins} {source : String} {parent : Parent}
    {r : Resource} (h : First options pins source parent r) (history : List Milestone) :
    Admits ⟨pins, source, homeOf parent⟩ history r := by
  rintro package directory path rfl
  cases h with
  | imported h hr =>
    rcases inPackage_of_dependencies h hr with ⟨he, hn⟩ | ⟨he, hn⟩
    · exact .runtime he (.inl hn)
    · exact .home he hn

theorem handle (fault : Fault) : Keeps o (handle c fault) s fun _ _ => True :=
  handle_ensures fault (fun _ _ => ⟨rfl, List.Subset.refl _, id⟩) fun _ => trivial

theorem pass (source : String) (parent : Parent) (budget : Budget) {s : Scene ε}
    (h : s.options.onlySpecifiedPackages = true) :
    let o : Origin := ⟨s.pins, source, homeOf parent⟩
    (pass c source parent budget s).Ends (regime ε o) fun _ s' => Valid o s' := by
  intro o
  let s₀ : Scene ε := { s with context := {} }
  have hv : (regime ε o).valid s₀ := ⟨h, fun _ => .pinned⟩
  have hcourse : Keeps o (course c source parent budget) s₀ fun _ _ => True := by
    refine course_ensures fun r s₁ hr _ => .rescue ?_ fun fault _ _ _ => handle fault
    exact visit (across_holds (expandMarked_of_descends _) _) (along_holds (expandMarked_of_descends _) _ _)
      _ (admits_of_first hr s₁.context.history)
  rw [pass_eq]
  exact (hcourse.ends hv).mono fun _ s' hr => (regime ε o).valid_of_since hr.1 hv

end Gated

/-! ## Requests of a pass -/

/-- A pass that is to look up specified packages only asks for specified packages, for the declarations
of the runtime where a text that it searches names them, and for the package that the source text lies in
where the source text imports from there. Whatever it pins is specified. -/
theorem pass_specified (c : Collaborators ε) (source : String) (parent : Parent) (budget : Budget)
    (s : Scene ε) (hs : s.options.onlySpecifiedPackages = true) (play : Play ε)
    (hp : play.PinsSpecified s.pins) (n : Nat) :
    let step := (pass c source parent budget s).after play n
    PinsWithin s.pins step.scene.pins ∧
    ∀ request, step.request? = some request →
      Origin.Warrants ⟨s.pins, source, homeOf parent⟩ step.scene.context.history request.package := by
  intro step
  have hfollows : play.Follows (Gated.regime ε ⟨s.pins, source, homeOf parent⟩) :=
    fun m request s' _ => ⟨rfl, rfl, hp m request s'⟩
  have hends : step.Ends _ _ := (Gated.pass source parent budget hs).after hfollows n
  refine ⟨?_, fun request hr => (hends.asks hr).2⟩
  exact (hends.scene (P := Gated.Valid _) (fun _ _ h => h.1) fun _ _ h => h).pins

namespace TypesOnly

/-- Only the package that declares the types of another is pinned. -/
def start : Scene Workspace := atFirst {
  onlySpecifiedPackages := true
  versions := some (Assoc.ofList [("@types/p", "1.0.0")]) }

def untyped : Play Workspace := .answering (Play.files "p" [("package.json", "\x7b\x7d")])

/-- The pass over an import of that package, after its manifest has been fetched. -/
def step : Step Workspace Unit :=
  (pass inMemory "require('p')" (.directory "/") ({} : Options).budget start).after untyped 1

theorem step_specified :
    start.options.onlySpecifiedPackages = true ∧ untyped.PinsSpecified start.pins ∧
    ∃ request, step.request? = some request ∧ request.package = "@types/p" ∧
      Origin.Warrants ⟨start.pins, "require('p')", none⟩ step.scene.context.history
        request.package := by
  have hplay : untyped.PinsSpecified start.pins :=
    (Play.keepsPins_answering _).pinsSpecified start.pins
  have hpackage : step.request?.map (·.package) = some "@types/p" := by decide +kernel
  obtain ⟨request, hr, hp⟩ := Option.map_eq_some_iff.mp hpackage
  refine ⟨rfl, hplay, request, hr, hp, ?_⟩
  exact (pass_specified inMemory "require('p')" (.directory "/") ({} : Options).budget start rfl untyped
    hplay 1).2 request hr

end TypesOnly

/-- Where nothing is specified the declarations of the runtime are asked for nevertheless. -/
theorem runtime_not_specified :
    let s : Scene Workspace := atFirst { onlySpecifiedPackages := true }
    s.options.onlySpecifiedPackages = true ∧
    ∃ request, (pass inMemory "require('node:fs')" (.directory "/") ({} : Options).budget s).request? =
      some request ∧ ¬ Specified s.pins request.package := by
  intro s
  have hasked : (pass inMemory "require('node:fs')" (.directory "/")
      ({} : Options).budget s).request?.isSome = true := by decide +kernel
  obtain ⟨request, hr⟩ := Option.isSome_iff_exists.mp hasked
  exact ⟨rfl, request, hr, not_specified_of_isEmpty rfl _⟩

end DeclarationFetch.Resolution
