import DeclarationFetch.Proofs.Resolution.Reach

/-! # Passes over a fixed source

A pass that gets for each file what a fixed function says, so that what each lookup comes to is settled
before it is made.

* `Coverage.Terms`: what such a pass is given; `held` is what its lookups find.
* `Terms.involved`: the dependencies that come up within the budget; `keyIn`: their keys.
* `Terms.Fair log`: nothing has failed so far, and the cache and the source have answered as they should.
* `Coverage.account`: as long as the pass is fair, its lookups come to what is held, and they leave alone
  what was taken up and expanded.
-/

namespace DeclarationFetch.Resolution

variable {ε : Type} {c : Collaborators ε}

namespace Coverage

def keyIn (pins : Pins) : Resource → String
  | .package name path => (Resource.package name path).key (pins.version? name)
  | .inPackage name source path => (Resource.inPackage name source path).key (pins.version? name)
  | .relative path source => (Resource.relative path source).key none

structure Terms where
  options : Options
  pins : Pins
  first : Resource → Prop
  source : Request → Option String

namespace Terms

variable (t : Terms)

def crossings : Nat := t.options.packageRecursionDepth.toNat

def fileSteps : Nat := t.options.fileRecursionDepth.toNat

/-- What there is at the pins. -/
def held : Findings := fun package path o =>
  o = (t.source ⟨package, path, t.pins.pin package⟩).map .text

/-- The dependencies that come up on chains within the budget. -/
def involved (r : Resource) : Prop :=
  ∃ n k, n ≤ t.crossings ∧ Due t.held t.first false t.fileSteps Anywhere n k r

/-- The dependencies that are taken up: those that are involved, and the entries of their packages. -/
inductive noted : Resource → Prop
  | involved {r : Resource} (h : t.involved r) : noted r
  | entry {package subPath : String} {w : Wanted} (h : t.involved (.package package subPath))
      (hn : Names t.held (.package package subPath) w) : noted w.resource

/-- The paths on the routes of dependencies that are involved. -/
def located (package path : String) : Prop := Route t.held t.involved package path

/-- Nothing has failed, and what came from the cache and from the source is what there is. -/
structure Fair (log : List Observation) : Prop where
  smooth : ∀ message, .failed message ∉ log
  cached : ∀ package path value, t.located package path →
    .cached (Package.fileKey package (t.pins.version? package) path) (.ok (some value)) ∈ log →
      t.held package path (some value)
  answered : ∀ request answer, .answered request (.ok answer) ∈ log → answer = t.source request

theorem held_functional : t.held.Functional := by
  rintro package path o o' rfl rfl
  rfl

variable {t}

theorem Fair.of_subset {log log' : List Observation} (hl : ∀ o ∈ log, o ∈ log')
    (h : t.Fair log') : t.Fair log where
  smooth message hm := h.smooth message (hl _ hm)
  cached package path value hp hm := h.cached package path value hp (hl _ hm)
  answered request answer hm := h.answered request answer (hl _ hm)

theorem exists_text_of_held {package path : String} {value : Value}
    (h : t.held package path (some value)) : ∃ text, value = .text text := by
  cases hs : t.source ⟨package, path, t.pins.pin package⟩ with
  | none =>
    rw [held, hs] at h
    cases h
  | some text =>
    rw [held, hs] at h
    cases h
    exact ⟨text, rfl⟩

end Terms

/-- A pass of all packages, none of them preloaded, in which the packages are pinned to what their
manifests say and the keys of dependencies and of files tell them apart. -/
structure Orderly (t : Terms) : Prop where
  notPreloading : t.options.preloadPackages = false
  notRestricted : t.options.onlySpecifiedPackages = false
  pinned : ∀ package directory text manifest version,
    t.located package (Path.join [directory, "package.json"]) →
      t.held package (Path.join [directory, "package.json"]) (some (.text text)) →
        Manifest.read package text = .ok manifest → manifest.version? = some version →
          t.pins.agrees package version = true
  keys : ∀ r r' f, t.noted r → t.noted r' → keyIn t.pins r = keyIn t.pins r' →
    Leads t.held r f → Leads t.held r' f
  files : ∀ r r' f f', t.involved r → t.involved r' → Leads t.held r f → Leads t.held r' f' →
    Package.fileKey f.package (t.pins.version? f.package) f.path =
      Package.fileKey f'.package (t.pins.version? f'.package) f'.path → f = f'

/-! ## The regime of lookups -/

/-- What holds at every moment of such a pass. -/
structure Valid (t : Terms) (s : Scene (Watched ε)) : Prop where
  options : s.options = t.options
  pins : t.Fair s.env.log → s.pins = t.pins
  expanded : t.Fair s.env.log → ∀ package version path text budget,
    .expanded package version path text budget ∈ s.context.history →
      version = t.pins.version? package ∧
        ∃ r, t.involved r ∧ Leads t.held r ⟨package, path, text⟩

/-- What was taken up and expanded stays as it is, and the log grows. -/
structure Frame (s s' : Scene (Watched ε)) : Prop where
  options : s'.options = s.options
  resolved : s'.context.resolved = s.context.resolved
  history : s'.context.history = s.context.history
  log : ∀ o ∈ s.env.log, o ∈ s'.env.log

variable {t : Terms} {s s' s'' : Scene (Watched ε)}

theorem Frame.refl (s : Scene (Watched ε)) : Frame s s := ⟨rfl, rfl, rfl, fun _ => id⟩

theorem Frame.trans (h : Frame s s') (h' : Frame s' s'') : Frame s s'' where
  options := h'.options.trans h.options
  resolved := h'.resolved.trans h.resolved
  history := h'.history.trans h.history
  log o ho := h'.log o (h.log o ho)

theorem Valid.of_frame (hv : Valid t s) (h : Frame s s')
    (hp : t.Fair s'.env.log → s.pins = t.pins → s'.pins = t.pins) : Valid t s' where
  options := h.options.trans hv.options
  pins hf := hp hf (hv.pins (hf.of_subset h.log))
  expanded hf package version path text budget hm :=
    hv.expanded (hf.of_subset h.log) package version path text budget (h.history ▸ hm)

def Kept (t : Terms) (s s' : Scene (Watched ε)) : Prop := Frame s s' ∧ (Valid t s → Valid t s')

theorem Kept.of_frame (h : Frame s s') (hp : s'.pins = s.pins) : Kept t s s' :=
  ⟨h, fun hv => hv.of_frame h fun _ hs => hp.trans hs⟩

theorem Kept.quiet (ho : s'.options = s.options) (hp : s'.pins = s.pins)
    (hc : s'.context = s.context) (hl : s'.env.log = s.env.log) : Kept t s s' :=
  .of_frame ⟨ho, hc ▸ rfl, hc ▸ rfl, fun _ hm => hl ▸ hm⟩ hp

theorem Kept.noted {o : Observation} (ho : s'.options = s.options) (hp : s'.pins = s.pins)
    (hc : s'.context = s.context) (hl : s'.env.log = o :: s.env.log) : Kept t s s' :=
  .of_frame ⟨ho, hc ▸ rfl, hc ▸ rfl, fun _ hm => hl ▸ List.mem_cons_of_mem _ hm⟩ hp

theorem Kept.injected {path text : String} {result : Except Fault Unit}
    (h : Injected c.watched path text s result s') : Kept t s s' :=
  .of_frame ⟨h.options_eq, h.resolved_eq, h.history_eq, h.log_subset⟩ h.pins_eq

/-- Answers are put down, and nobody else acts. -/
def regime (ε : Type) (t : Terms) : Regime (Watched ε) where
  asks _ _ := True
  answers request s answer s' :=
    .answered request answer ∈ s'.env.log ∧ Frame s s' ∧ s'.pins = s.pins
  valid := Valid t
  since := Kept t
  refl s := ⟨.refl s, id⟩
  trans h h' := ⟨h.1.trans h'.1, fun hv => h'.2 (h.2 hv)⟩
  valid_of_since h hv := h.2 hv

/-- What a pass has found, as long as it is fair. -/
def found (t : Terms) (s : Scene (Watched ε)) : Findings := fun package path o =>
  t.Fair s.env.log → t.held package path o

theorem found_of_log (hl : ∀ o ∈ s.env.log, o ∈ s'.env.log) {package path : String}
    {o : Option Value} (h : found t s package path o) : found t s' package path o := fun hf =>
  h (hf.of_subset hl)

theorem names_of_found {r : Resource} {w : Wanted} (h : Names (found t s) r w)
    (hf : t.Fair s.env.log) : Names t.held r w :=
  h.mono fun _ _ _ ho => ho hf

def pursued (t : Terms) (s : Scene (Watched ε)) (r : Resource) : Prop :=
  t.Fair s.env.log → t.involved r

theorem located_of_route {package path : String}
    (h : Route (found t s) (pursued t s) package path) (hf : t.Fair s.env.log) :
    t.located package path :=
  h.mono (fun _ _ _ ho => ho hf) fun _ hr => hr hf

def account (c : Collaborators ε) (t : Terms) (ht : Orderly t) : Account c.watched where
  toRegime := regime ε t
  found := found t
  pursued := pursued t
  found_of_since hs h := found_of_log hs.1.log h
  pursued_of_since hs h hf := h (hf.of_subset hs.1.log)
  reported _ _ := .quiet rfl rfl rfl rfl
  cached {s package path} hv hr := by
    refine ⟨.noted rfl rfl rfl rfl, fun value h hf => ?_⟩
    have hl : ∀ o ∈ s.env.log, o ∈ (c.watched.cached
        (Package.fileKey package (s.pins.version? package) path) s.env).2.log :=
      fun _ => List.mem_cons_of_mem _
    have hf₀ : t.Fair s.env.log := hf.of_subset hl
    have hm := c.mem_log_cached h
    rw [hv.pins hf₀] at hm hf
    exact hf.cached package path value (located_of_route hr hf₀) hm
  asked _ _ _ := trivial
  answered {s₀ s s' package path answer} hv hs h := by
    refine ⟨.of_frame h.2.1 h.2.2, fun o ho hf => ?_⟩
    have hlog : ∀ o ∈ s₀.env.log, o ∈ s'.env.log := fun o hm => h.2.1.log o (hs.1.log o hm)
    have hpins : s₀.pins = t.pins := hv.pins (hf.of_subset hlog)
    subst ho
    rw [hf.answered _ _ h.1, hpins]
    rfl
  stored _ _ _ := .quiet rfl rfl rfl rfl
  sought _ _ := .quiet rfl rfl rfl rfl
  injected _ _ _ hi := .injected hi
  pinned {s package directory text manifest entry version} hv hr _ hf hm _ hver hne := by
    refine Regime.since_repinned _ ⟨⟨rfl, rfl, rfl, fun _ => id⟩, fun _ => ?_⟩ (.quiet rfl rfl rfl rfl)
    refine hv.of_frame ⟨rfl, rfl, rfl, fun _ => id⟩ fun hfair hpins => ?_
    have ha := ht.pinned package directory text manifest version (located_of_route hr hfair)
      (hf hfair) hm hver
    rw [hpins, ha] at hne
    cases hne
  looked _ _ := .noted rfl rfl rfl rfl
  readied _ _ := .noted rfl rfl rfl rfl
  failed _ _ := .noted rfl rfl rfl rfl

end Coverage

end DeclarationFetch.Resolution
