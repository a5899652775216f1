import DeclarationFetch.Proofs.Resolution.Policy
import DeclarationFetch.Proofs.Resolution.Solo

/-! # Behind a failure

A pass in which the walk over a dependency has failed, beside the same pass without that dependency.

* `Fork ε`: where the walk has begun and where it has failed, and the dependencies that come after it.
  `Fork.Ahead`: what comes up there without the failing one.
* `Solo.Clear`: the failing walk has finished what it has taken up of that.
* `Solo.Beside`: two scenes of the two passes. The one after the failure has all the marks of the other
  and those of the failing walk, and a file wherever the other has one.
* `Solo.Abreast`: walks in the two passes, one of which may rest while the other goes on.
-/

namespace DeclarationFetch

/-- The packages that a dependency is looked up in. -/
def Resource.packages : Resource → List String
  | .package name _ => [name, Package.definitelyTyped name]
  | .inPackage name _ _ => [name]
  | .relative _ _ => []

/-- The package whose version is in the key of a dependency. -/
def Resource.package? (r : Resource) : Option String := r.packages.head?

namespace Resolution

variable {ε α : Type}

theorem Context.loaded_of_history {c c' : Context} (h : c'.history = c.history) :
    c'.loaded = c.loaded := by
  unfold Context.loaded
  rw [h]

theorem Context.mem_loaded_record {c : Context} {m : Milestone} {key : String} :
    key ∈ (c.record m).loaded ↔ Context.expandedKey? m = some key ∨ key ∈ c.loaded := by
  show key ∈ (m :: c.history).filterMap Context.expandedKey? ↔ _
  cases hm : Context.expandedKey? m with
  | none => simp [hm, Context.loaded]
  | some other => simp [hm, Context.loaded, eq_comm]

/-! ## What is ahead -/

def Remaining.Allows (left : Remaining) (home : Option String) (r : Resource) : Prop :=
  Crosses home r ∧ left.crossings ≠ 0 ∨ Stays home r ∧ left.steps ≠ 0

/-- What a dependency wants, with the file that is found for it. -/
def lookUp (c : Collaborators ε) : Resource → Walk ε (Option (Wanted × Option (Value × String)))
  | .relative _ _ => Walk.pure none
  | .package package subPath => do
      match ← packageEntry c package subPath with
      | none => return none
      | some w => return some (w, ← sourceFile c w)
  | .inPackage package source path => do
      return some (⟨package, source, path⟩, ← sourceFile c ⟨package, source, path⟩)

/-- A pass in which the walk over a dependency fails, and the same pass without that dependency. -/
structure Fork (ε : Type) where
  /-- The dependencies after the one that fails. -/
  others : List Resource
  left : Remaining
  home : Option String
  /-- Where the walk that fails has begun, and where the pass without it goes on. -/
  start : Scene ε
  failed : Scene ε
  /-- What happens in the pass without it. -/
  history : List Milestone

namespace Fork

variable (F : Fork ε)

/-- What comes up in the pass without the dependency that fails: the dependencies after it, and what is
imported by files that are expanded then. -/
inductive Ahead : Resource → Prop
  | first {r : Resource} (hr : r ∈ F.others) (ha : F.left.Allows F.home r) : Ahead r
  | imported {package path text : String} {version : Option String} {left : Remaining} {r : Resource}
      (hm : .expanded package version path text left ∈ F.history)
      (hnew : Package.fileKey package version path ∉ F.start.context.loaded)
      (hi : (File.mk package path text).Imports r) (ha : left.Allows (some package) r) : Ahead r
  | root {package subPath : String} (ho : F.start.options.preloadPackages = true)
      (h : Ahead (.package package subPath)) : Ahead (.package package "")

/-- A package in which something that comes up is looked up. -/
def Concerns (package : String) : Prop := ∃ r, F.Ahead r ∧ package ∈ r.packages

/-- The failing walk has taken a dependency up, at the version that it has left its package at. -/
def Marked (r : Resource) : Prop :=
  ∀ package ∈ r.package?, r.key (F.failed.pins.version? package) ∈ F.failed.context.resolved

end Fork

namespace Solo

variable (W : Solo ε)

/-- The manifests of a package name the version that the package is pinned to, or none. -/
def Pinned (pins : Pins) (package : String) : Prop :=
  ∀ directory text manifest named,
    W.repository (Package.fileKey package (pins.version? package)
        (Path.join [directory, "package.json"])) = .ok (some text) →
      Manifest.read package text = .ok manifest → manifest.version? = some named →
        pins.agrees package named = true

variable (F : Fork ε)

/-- The failing walk has finished a dependency: looked up again it leads to a file that the walk has
expanded, and the host has all that comes with it. -/
structure Finished (r : Resource) : Prop where
  pinned : ∀ package ∈ r.packages, W.Pinned F.failed.pins package
  whole : ∀ package subPath, r = .package package subPath → subPath ≠ "" →
    F.failed.options.preloadPackages = true → F.Marked (.package package "")
  looked : ∃ o s', W.run (lookUp W.c r) F.failed = (.ok o, s') ∧
    (∀ path, W.Held s' path → W.Held F.failed path) ∧
    ∀ w file, o = some (w, file) → F.Marked w.resource ∧ ∀ content path, file = some (content, path) →
      Package.fileKey w.package (F.failed.pins.version? w.package) path ∈ F.failed.context.loaded

/-- The failing walk has followed the imports of a file as far as a budget allows. -/
structure Followed (package path text : String) (left : Remaining) : Prop where
  held : W.Held F.failed (Package.hostPath package path)
  imports : ∃ rs, (File.mk package path text).dependencies = .ok rs ∧
    ∀ r ∈ rs, left.Allows (some package) r →
      F.Marked r ∧ ∀ package ∈ r.package?, W.Pinned F.failed.pins package

/-- The failing walk has left the pins of what is ahead alone, and has finished what it has taken up of
it. -/
structure Clear : Prop where
  pins : ∀ package, F.Concerns package → F.failed.pins.get? package = F.start.pins.get? package
  taken : ∀ r version, F.Ahead r → r.key version ∈ F.failed.context.resolved →
    r.key version ∉ F.start.context.resolved → W.Finished F r
  expanded : ∀ package version path text left, .expanded package version path text left ∈ F.history →
    Package.fileKey package version path ∈ F.failed.context.loaded →
      Package.fileKey package version path ∉ F.start.context.loaded →
        W.Followed F package path text left

/-! ## Two scenes -/

/-- A scene after the failure, and one of the pass without it. The second may have files in its host
besides those of the first. -/
structure Beside (extra : String → Prop) (s s₀ : Scene ε) : Prop where
  grown : W.Grown F.failed s
  grown₀ : W.Grown F.start s₀
  options : s.options = s₀.options
  pins : ∀ package, F.Concerns package → s.pins.get? package = s₀.pins.get? package
  pinned : ∀ package, F.Concerns package → W.Pinned F.failed.pins package →
    s.pins.get? package = F.failed.pins.get? package
  resolved : ∀ key, key ∈ s.context.resolved ↔
    key ∈ s₀.context.resolved ∨ key ∈ F.failed.context.resolved
  loaded : ∀ key, key ∈ s.context.loaded ↔
    key ∈ s₀.context.loaded ∨ key ∈ F.failed.context.loaded
  held : ∀ path, W.Held s₀ path → W.Held s path ∨ extra path

variable {W F} {extra extra' : String → Prop} {s s' s₀ s₀' : Scene ε}

namespace Beside

theorem version_eq (h : W.Beside F extra s s₀) {package : String} (hc : F.Concerns package)
    (hp : W.Pinned F.failed.pins package) :
    s₀.pins.version? package = F.failed.pins.version? package :=
  Pins.version?_of_get? ((h.pins package hc).symm.trans (h.pinned package hc hp))

theorem mono (h : W.Beside F extra s s₀) (he : ∀ path, extra path → W.Held s path ∨ extra' path) :
    W.Beside F extra' s s₀ :=
  { h with held := fun path hp => (h.held path hp).elim .inl (he path) }

theorem quiet (h : W.Beside F extra s s₀) (hq : W.Quiet s s') : W.Beside F extra s' s₀ where
  grown := h.grown.quiet hq
  grown₀ := h.grown₀
  options := hq.options.trans h.options
  pins package hc := hq.pins ▸ h.pins package hc
  pinned package hc hp := hq.pins ▸ h.pinned package hc hp
  resolved key := hq.context ▸ h.resolved key
  loaded key := hq.context ▸ h.loaded key
  held path hp := (h.held path hp).imp_left (hq.held path).mpr

theorem quiet₀ (h : W.Beside F extra s s₀) (hq : W.Quiet s₀ s₀') : W.Beside F extra s s₀' where
  grown := h.grown
  grown₀ := h.grown₀.quiet hq
  options := h.options.trans hq.options.symm
  pins package hc := hq.pins ▸ h.pins package hc
  pinned := h.pinned
  resolved key := hq.context ▸ h.resolved key
  loaded key := hq.context ▸ h.loaded key
  held path hp := h.held path ((hq.held path).mp hp)

theorem gains {path : String} (h : W.Beside F extra s s₀) (hg : W.Gains path s s') :
    W.Beside F extra s' s₀ where
  grown := h.grown.gains hg
  grown₀ := h.grown₀
  options := hg.options.trans h.options
  pins package hc := hg.pins ▸ h.pins package hc
  pinned package hc hp := hg.pins ▸ h.pinned package hc hp
  resolved key := hg.resolved ▸ h.resolved key
  loaded key := Context.loaded_of_history hg.history ▸ h.loaded key
  held other hp := (h.held other hp).imp_left fun ho => (hg.held other).mpr (.inl ho)

theorem gains₀ {path : String} (h : W.Beside F extra s s₀) (hg : W.Gains path s₀ s₀')
    (hp : W.Held s path ∨ extra path) : W.Beside F extra s s₀' where
  grown := h.grown
  grown₀ := h.grown₀.gains hg
  options := h.options.trans hg.options.symm
  pins package hc := hg.pins ▸ h.pins package hc
  pinned := h.pinned
  resolved key := hg.resolved ▸ h.resolved key
  loaded key := Context.loaded_of_history hg.history ▸ h.loaded key
  held other ho := ((hg.held other).mp ho).elim (h.held other) fun he => he ▸ hp

theorem mark (h : W.Beside F extra s s₀) (key : String) :
    W.Beside F extra { s with context := s.context.mark key }
      { s₀ with context := s₀.context.mark key } where
  grown := h.grown.mark key
  grown₀ := h.grown₀.mark key
  options := h.options
  pins := h.pins
  pinned := h.pinned
  resolved other := by
    rw [Context.mem_resolved_mark, Context.mem_resolved_mark, h.resolved other, or_right_comm]
  loaded other := by
    rw [Context.loaded_of_history (Context.history_mark s.context key),
      Context.loaded_of_history (Context.history_mark s₀.context key), h.loaded other]
  held := h.held

theorem mark₀ (h : W.Beside F extra s s₀) {key : String}
    (hk : key ∈ F.failed.context.resolved) :
    W.Beside F extra s { s₀ with context := s₀.context.mark key } where
  grown := h.grown
  grown₀ := h.grown₀.mark key
  options := h.options
  pins := h.pins
  pinned := h.pinned
  resolved other := by
    rw [Context.mem_resolved_mark, h.resolved other]
    refine ⟨fun ho => ho.imp_left .inl, fun ho => ?_⟩
    rcases ho with (ho | rfl) | ho
    · exact .inl ho
    · exact .inr hk
    · exact .inr ho
  loaded other := by
    rw [Context.loaded_of_history (Context.history_mark s₀.context key), h.loaded other]
  held := h.held

theorem record (h : W.Beside F extra s s₀) (m : Milestone) :
    W.Beside F extra { s with context := s.context.record m }
      { s₀ with context := s₀.context.record m } where
  grown := h.grown.record m
  grown₀ := h.grown₀.record m
  options := h.options
  pins := h.pins
  pinned := h.pinned
  resolved := h.resolved
  loaded other := by
    rw [Context.mem_loaded_record, Context.mem_loaded_record, h.loaded other, or_assoc]
  held := h.held

theorem record₀ (h : W.Beside F extra s s₀) {m : Milestone}
    (hm : ∀ key, Context.expandedKey? m = some key → key ∈ F.failed.context.loaded) :
    W.Beside F extra s { s₀ with context := s₀.context.record m } where
  grown := h.grown
  grown₀ := h.grown₀.record m
  options := h.options
  pins := h.pins
  pinned := h.pinned
  resolved := h.resolved
  loaded other := by
    rw [Context.mem_loaded_record, h.loaded other]
    refine ⟨fun ho => ho.imp_left .inr, fun ho => ?_⟩
    rcases ho with (ho | ho) | ho
    · exact .inr (hm other ho)
    · exact .inl ho
    · exact .inr ho
  held := h.held

theorem insert (h : W.Beside F extra s s₀) {package : String} (value : Value)
    (hp : ¬ W.Pinned F.failed.pins package) :
    W.Beside F extra { s with pins := s.pins.insert package value }
      { s₀ with pins := s₀.pins.insert package value } where
  grown := h.grown.pins _
  grown₀ := h.grown₀.pins _
  options := h.options
  pins other hc := by
    rw [Assoc.get?_insert, Assoc.get?_insert, h.pins other hc]
  pinned other hc ho := by
    have hne : package ≠ other := fun he => hp (he ▸ ho)
    rw [Assoc.get?_insert, if_neg hne]
    exact h.pinned other hc ho
  resolved := h.resolved
  loaded := h.loaded
  held := h.held

end Beside

/-! ## Lookups in both passes -/

/-- The versions that a package may be at behind the failure. -/
def AtVersion (W : Solo ε) (F : Fork ε) (package : String) (version : Option String) : Prop :=
  W.Pinned F.failed.pins package → version = F.failed.pins.version? package

theorem Beside.atVersion (h : W.Beside F extra s s₀) {package : String} (hc : F.Concerns package) :
    W.AtVersion F package (s.pins.version? package) := fun hp =>
  Pins.version?_of_get? (h.pinned package hc hp)

variable (W F)

/-- What is ahead is looked up in both passes. -/
def both : Tandem W where
  rel := W.Beside F fun _ => False
  shared := F.Concerns
  versions := W.AtVersion F
  fine h := ⟨h.grown.fine, h.grown₀.fine⟩
  options_eq h := h.options
  pin_eq h hc := h.pins _ hc
  version h hc := h.atVersion hc
  quiet h hq hq₀ := (h.quiet hq).quiet₀ hq₀
  gains {path} _ _ _ _ h hg hg₀ := (h.gains hg).gains₀ hg₀ (.inl ((hg.held path).mpr (.inr rfl)))
  pinned {s s₀ package version directory text manifest named} h hc hv hserved hm hn ha := by
    refine h.insert _ fun hp => ?_
    -- A pinned package is at the version that the manifest names.
    have hat : F.failed.pins.agrees package named = true :=
      hp directory text manifest named (hv hp ▸ hserved) hm hn
    unfold Pins.agrees at ha hat
    rw [h.pinned package hc hp, hat] at ha
    cases ha

/-- What the failing walk has taken up is looked up once more behind the failure, in the scenes on the
left, and in the pass without the failing dependency, in those on the right; the pass with it rests in
`s`. -/
def again (s : Scene ε) (r : Resource) : Tandem W where
  rel t s₀ := W.Fine t ∧ t.options = s₀.options ∧
    (∀ package ∈ r.packages, t.pins.get? package = s₀.pins.get? package) ∧ W.Beside F (W.Held t) s s₀
  shared package := package ∈ r.packages ∧ F.Concerns package ∧ W.Pinned F.failed.pins package
  versions := W.AtVersion F
  fine h := ⟨h.1, h.2.2.2.grown₀.fine⟩
  options_eq h := h.2.1
  pin_eq h hp := h.2.2.1 _ hp.1
  version h hp hpinned := by
    rw [Pins.version?_of_get? (h.2.2.1 _ hp.1)]
    exact h.2.2.2.version_eq hp.2.1 hpinned
  quiet h hq hq₀ := by
    refine ⟨hq.fine h.1, hq.options.trans (h.2.1.trans hq₀.options.symm), fun package hp => ?_, ?_⟩
    · rw [hq.pins, hq₀.pins, h.2.2.1 package hp]
    · exact (h.2.2.2.quiet₀ hq₀).mono fun path hp => .inr ((hq.held path).mpr hp)
  gains {path} _ _ _ _ h hg hg₀ := by
    refine ⟨hg.fine h.1, hg.options.trans (h.2.1.trans hg₀.options.symm), fun package hp => ?_, ?_⟩
    · rw [hg.pins, hg₀.pins, h.2.2.1 package hp]
    · refine (h.2.2.2.mono fun other ho => .inr ?_).gains₀ hg₀ (.inr ((hg.held path).mpr (.inr rfl)))
      exact (hg.held other).mpr (.inl ho)
  pinned {t s₀ package version directory text manifest named} h hp hv hserved hm hn ha := by
    have hat : F.failed.pins.agrees package named = true :=
      hp.2.2 directory text manifest named (hv hp.2.2 ▸ hserved) hm hn
    unfold Pins.agrees at ha hat
    rw [h.2.2.1 package hp.1, ← h.2.2.2.pins package hp.2.1, h.2.2.2.pinned package hp.2.1 hp.2.2,
      hat] at ha
    cases ha

end Solo

end Resolution

end DeclarationFetch
