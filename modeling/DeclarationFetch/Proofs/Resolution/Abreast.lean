import DeclarationFetch.Proofs.Resolution.Fork
import DeclarationFetch.Proofs.Resolution.Parallel

/-! # Passes abreast

What two walks have in common, one behind a failure and one in the pass without the dependency that has
failed.

* `Solo.Abreast W F w s w₀ s₀`: the walks `w` and `w₀` end alike, and the host of the first has a file
  wherever that of the second has one. There is one rule for each way to build a walk.
* `Abreast.visit_both`, `Abreast.visit_behind`: a dependency that both take up, and one that the failing
  walk has taken up, so that the first rests while the second goes on.
* `Abreast.visitOn_both`: the walks over a dependency of the source text.
-/

namespace DeclarationFetch.Resolution

variable {ε α : Type}

/-! ## Parts of walks -/

def bringIn (c : Collaborators ε) (left : Remaining) (cross step : Option (Enter ε)) (f : File)
    (version : Option String) : Walk ε Unit := do
  Walk.change fun context => context.record (.expanded f.package version f.path f.text left)
  inject c (Package.hostPath f.package f.path) f.text
  let dependencies ← importsOf f.text (.resource (.inPackage f.package (Path.dirname f.path) ""))
  Walk.each (visit c cross step (some f.package)) dependencies

def expandFound (c : Collaborators ε) (left : Remaining) (cross step : Option (Enter ε))
    (package : String) : Option (Value × String) → Walk ε Unit
  | none => Walk.pure ()
  | some (content, path) => do
      let version ← versionOf package
      if (← Walk.scene).context.loaded.contains (Package.fileKey package version path) then return ()
      let text ← hostable c (Package.hostPath package path) content
      bringIn c left cross step ⟨package, path, text⟩ version

theorem expand_eq (c : Collaborators ε) (left : Remaining) (cross step : Option (Enter ε))
    (w : Wanted) : expand c left cross step w =
      sourceFile c w >>= expandFound c left cross step w.package := by
  unfold expand
  congr

theorem expandFound_text (c : Collaborators ε) (left : Remaining) (cross step : Option (Enter ε))
    (package text path : String) (s : Scene ε) :
    expandFound c left cross step package (some (.text text, path)) s =
      (if s.context.loaded.contains (Package.fileKey package (s.pins.version? package) path) then
        Walk.pure ()
      else bringIn c left cross step ⟨package, path, text⟩ (s.pins.version? package)) s := by
  show (if s.context.loaded.contains (Package.fileKey package (s.pins.version? package) path) then
    Walk.pure () else _ : Walk ε Unit) s = _
  split <;> rfl

theorem visit_allowed {c : Collaborators ε} {P : Nat → Nat → Enter ε → Prop} {fileSteps : Nat}
    {left : Remaining} {cross step : Option (Enter ε)}
    (hd : Descends P fileSteps left.crossings left.steps cross step) (home : Option String)
    (r : Resource) :
    visit c cross step home r = Walk.pure () ∨ left.Allows home r ∧
      ∃ n k enter, P n k enter ∧ TakenUp c enter r (visit c cross step home r) := by
  rcases visit_cases c cross step home r with ⟨hr, _⟩ | ⟨enter, ⟨he, hr⟩ | ⟨he, hr⟩, ht⟩
  · exact .inl hr
  · obtain ⟨n, hn, hp⟩ := hd.crosses enter he
    exact .inr ⟨.inl ⟨hr, by omega⟩, n, _, enter, hp, ht⟩
  · obtain ⟨k, hk, hp⟩ := hd.stays enter he
    exact .inr ⟨.inr ⟨hr, by omega⟩, _, k, enter, hp, ht⟩

namespace Solo

variable (W : Solo ε) (F : Fork ε)

/-- The host has a file wherever the host of the pass without the failing dependency has one. -/
abbrev Level (s s₀ : Scene ε) : Prop := W.Beside F (fun _ => False) s s₀

/-- The walk `w` behind the failure and the walk `w₀` in the pass without the failing dependency end
alike, if `w₀` does what happens in that pass. -/
structure Abreast (w : Walk ε Unit) (s : Scene ε) (w₀ : Walk ε Unit) (s₀ : Scene ε) : Prop where
  ends : W.Level F s s₀ → (∀ m ∈ (W.run w₀ s₀).2.context.history, m ∈ F.history) →
    ∃ result s' s₀', W.run w s = (result, s') ∧ W.run w₀ s₀ = (result, s₀') ∧ W.Level F s' s₀'

/-! ## Walks put together -/

namespace Abreast

variable {W F} {w w₀ w' w₀' : Walk ε Unit} {s s₀ : Scene ε}

theorem of_level (h : W.Level F s s₀ → W.Abreast F w s w₀ s₀) : W.Abreast F w s w₀ s₀ :=
  ⟨fun hl => (h hl).ends hl⟩

theorem of_eq (h : W.Abreast F w' s w₀' s₀) (he : w s = w' s) (he₀ : w₀ s₀ = w₀' s₀) :
    W.Abreast F w s w₀ s₀ where
  ends hl hh := by
    have hrun : W.run w s = W.run w' s := congrArg (Step.outcome _) he
    have hrun₀ : W.run w₀ s₀ = W.run w₀' s₀ := congrArg (Step.outcome _) he₀
    rw [hrun, hrun₀]
    rw [hrun₀] at hh
    exact h.ends hl hh

theorem read {f f₀ : Scene ε → Walk ε Unit}
    (h : W.Level F s s₀ → W.Abreast F (f s) s (f₀ s₀) s₀) :
    W.Abreast F (Walk.scene >>= f) s (Walk.scene >>= f₀) s₀ :=
  of_level fun hl => (h hl).of_eq rfl rfl

theorem read_behind {f₀ : Scene ε → Walk ε Unit}
    (h : W.Level F s s₀ → W.Abreast F (.pure ()) s (f₀ s₀) s₀) :
    W.Abreast F (.pure ()) s (Walk.scene >>= f₀) s₀ :=
  of_level fun hl => (h hl).of_eq rfl rfl

theorem rest : W.Abreast F (.pure ()) s (.pure ()) s₀ := ⟨fun hl _ => ⟨_, s, s₀, rfl, rfl, hl⟩⟩

theorem knowing (hg : W.Grows w₀)
    (h : (∀ m ∈ s₀.context.history, m ∈ F.history) → W.Abreast F w s w₀ s₀) :
    W.Abreast F w s w₀ s₀ where
  ends hl hh := (h fun m hm => hh m ((hg s₀ hl.grown₀.fine).history m hm)).ends hl hh

theorem lookup {w w₀ : Walk ε α} {f f₀ : α → Walk ε Unit} {Q : α → Prop}
    (h : w.Follows (W.both F).correspondence s w₀ s₀ Q)
    (hf : ∀ a s' s₀', W.Level F s' s₀' → Q a → W.Abreast F (f a) s' (f₀ a) s₀') :
    W.Abreast F (w >>= f) s (w₀ >>= f₀) s₀ where
  ends hl hh := by
    obtain ⟨result, s', s₀', he, he₀, hl', hq⟩ := Tandem.run_of_follows (T := W.both F) hl h
    rw [run_bind, he₀] at hh
    rw [run_bind, run_bind, he, he₀]
    cases result with
    | error fault => exact ⟨_, s', s₀', rfl, rfl, hl'⟩
    | ok a => exact (hf a s' s₀' hl' (hq a rfl)).ends hl' hh

theorem change {f : Context → Context}
    (hl : W.Level F s s₀ →
      W.Level F { s with context := f s.context } { s₀ with context := f s₀.context })
    (h : W.Abreast F w { s with context := f s.context } w₀ { s₀ with context := f s₀.context }) :
    W.Abreast F (Walk.change f >>= fun _ => w) s (Walk.change f >>= fun _ => w₀) s₀ where
  ends hl₀ hh := h.ends (hl hl₀) hh

/-- A part of a walk that only the pass without the failing dependency has to do. -/
theorem behind {w₀ : Walk ε α} {f₀ : α → Walk ε Unit}
    (h : W.Level F s s₀ → ∃ a s₀', W.run w₀ s₀ = (.ok a, s₀') ∧ W.Level F s s₀' ∧
      W.Abreast F (.pure ()) s (f₀ a) s₀') : W.Abreast F (.pure ()) s (w₀ >>= f₀) s₀ where
  ends hl hh := by
    obtain ⟨a, s₀', he, hl', hf⟩ := h hl
    have hrun : W.run (w₀ >>= f₀) s₀ = W.run (f₀ a) s₀' := by rw [run_bind, he]
    rw [hrun] at hh ⊢
    exact hf.ends hl' hh

theorem andThen (hg : W.Grows w₀) (hg' : W.Grows w₀') (h : W.Abreast F w s w₀ s₀)
    (h' : ∀ s' s₀', W.Abreast F w' s' w₀' s₀') :
    W.Abreast F (w >>= fun _ => w') s (w₀ >>= fun _ => w₀') s₀ where
  ends hl hh := by
    have hgrown := hg s₀ hl.grown₀.fine
    rw [run_bind] at hh
    -- What has happened by the end of the first walk has happened by the end of the second.
    have hfirst : ∀ m ∈ (W.run w₀ s₀).2.context.history, m ∈ F.history := fun m hm => by
      split at hh
      · next a s' he =>
        rw [he] at hgrown hm
        exact hh m ((hg' s' hgrown.fine).history m hm)
      · next fault s' he =>
        rw [he] at hm
        exact hh m hm
    obtain ⟨result, s', s₀', he, he₀, hl'⟩ := h.ends hl hfirst
    rw [he₀] at hh
    rw [run_bind, run_bind, he, he₀]
    cases result with
    | error fault => exact ⟨_, s', s₀', rfl, rfl, hl'⟩
    | ok a => exact (h' s' s₀').ends hl' hh

theorem andThen_behind (hg : W.Grows w₀) (hg' : W.Grows w₀') (h : W.Abreast F (.pure ()) s w₀ s₀)
    (h' : ∀ s s₀, W.Abreast F (.pure ()) s w₀' s₀) :
    W.Abreast F (.pure ()) s (w₀ >>= fun _ => w₀') s₀ :=
  (andThen hg hg' h h').of_eq rfl rfl

section Each

variable {walk : Resource → Walk ε Unit} {l : List Resource} (hg : ∀ r, W.Grows (walk r))
include hg

theorem each (h : ∀ r ∈ l, ∀ s s₀, W.Abreast F (walk r) s (walk r) s₀) :
    W.Abreast F (Walk.each walk l) s (Walk.each walk l) s₀ := by
  induction l generalizing s s₀ with
  | nil => exact rest
  | cons r rest ih =>
    have hrest : ∀ r ∈ rest, ∀ s s₀, W.Abreast F (walk r) s (walk r) s₀ := fun r hr =>
      h r (List.mem_cons_of_mem _ hr)
    exact andThen (hg r) (.each hg rest) (h r (List.mem_cons_self ..) s s₀) fun _ _ => ih hrest

theorem each_behind (h : ∀ r ∈ l, ∀ s s₀, W.Abreast F (.pure ()) s (walk r) s₀) :
    W.Abreast F (.pure ()) s (Walk.each walk l) s₀ := by
  induction l generalizing s s₀ with
  | nil => exact rest
  | cons r rest ih =>
    have hrest : ∀ r ∈ rest, ∀ s s₀, W.Abreast F (.pure ()) s (walk r) s₀ := fun r hr =>
      h r (List.mem_cons_of_mem _ hr)
    exact andThen_behind (hg r) (.each hg rest) (h r (List.mem_cons_self ..) s s₀) fun _ _ => ih hrest

end Each

/-- The end of an expansion is put down in both passes, or in one of them only. -/
theorem closing {first last : Context → Context} (h : W.Abreast F w s w₀ s₀)
    (hsame : ∀ context, ∀ m ∈ context.history, m ∈ (last context).history)
    (hl : ∀ s s₀, W.Level F s s₀ → W.Level F { s with context := first s.context }
      { s₀ with context := last s₀.context }) :
    W.Abreast F (w.closing first) s (w₀.closing last) s₀ where
  ends hl₀ hh := by
    rw [run_closing] at hh
    obtain ⟨result, s', s₀', he, he₀, hl'⟩ := h.ends hl₀ fun m hm => hh m (hsame _ m hm)
    rw [run_closing, run_closing, he, he₀]
    exact ⟨result, _, _, rfl, rfl, hl s' s₀' hl'⟩

theorem rescue (h : W.Abreast F w s w₀ s₀) :
    W.Abreast F (w.rescue (handle W.c)) s (w₀.rescue (handle W.c)) s₀ where
  ends hl hh := by
    -- The handler leaves alone what has happened.
    have hfirst : (W.run (w₀.rescue (handle W.c)) s₀).2.context = (W.run w₀ s₀).2.context := by
      rw [run_rescue]
      split
      · next a s' he => rw [he]
      · next fault s' he =>
        obtain ⟨s'', hs, hq⟩ := W.run_handle fault s'
        rw [he, hs, hq.context]
    rw [hfirst] at hh
    obtain ⟨result, s', s₀', he, he₀, hl'⟩ := h.ends hl hh
    rw [run_rescue, run_rescue, he, he₀]
    cases result with
    | ok a => exact ⟨_, s', s₀', rfl, rfl, hl'⟩
    | error fault =>
      obtain ⟨s'', hs, hq⟩ := W.run_handle fault s'
      obtain ⟨s₀'', hs₀, hq₀⟩ := W.run_handle fault s₀'
      rw [← hl'.options] at hs₀
      exact ⟨_, s'', s₀'', hs, hs₀, (hl'.quiet hq).quiet₀ hq₀⟩

end Abreast

/-! ## What the failing walk has looked up -/

/-- The failing walk has expanded the file that is found for what is wanted. -/
structure Covered (w : Wanted) : Prop where
  concerns : F.Concerns w.package
  pinned : W.Pinned F.failed.pins w.package
  found : ∃ t o t', W.Fine t ∧ t.options = F.failed.options ∧
    t.pins.get? w.package = F.failed.pins.get? w.package ∧
    W.run (sourceFile W.c w) t = (.ok o, t') ∧ (∀ path, W.Held t' path → W.Held F.failed path) ∧
    ∀ content path, o = some (content, path) →
      Package.fileKey w.package (F.failed.pins.version? w.package) path ∈ F.failed.context.loaded

variable {W F} {s s₀ t : Scene ε} {r : Resource}

theorem Level.again (hl : W.Level F s s₀) (hc : ∀ package ∈ r.packages, F.Concerns package)
    (hp : ∀ package ∈ r.packages, W.Pinned F.failed.pins package) (hfine : W.Fine t)
    (ho : t.options = F.failed.options)
    (ht : ∀ package ∈ r.packages, t.pins.get? package = F.failed.pins.get? package) :
    (W.again F s r).rel t s₀ := by
  refine ⟨hfine, ho.trans (hl.grown.options.symm.trans hl.options), fun package hm => ?_,
    hl.mono fun _ h => h.elim⟩
  rw [ht package hm, ← hl.pinned package (hc package hm) (hp package hm),
    hl.pins package (hc package hm)]

theorem level_of_again (h : (W.again F s r).rel t s₀)
    (ht : ∀ path, W.Held t path → W.Held F.failed path) : W.Level F s s₀ :=
  h.2.2.2.mono fun path hp => .inl (h.2.2.2.grown.held path (ht path hp))

theorem Covered.sourceFile {w : Wanted} (h : W.Covered F w) (hl : W.Level F s s₀) :
    ∃ o s₀', W.run (sourceFile W.c w) s₀ = (.ok o, s₀') ∧ W.Level F s s₀' ∧
      Lookups.Textual o ∧ ∀ content path, o = some (content, path) →
        Package.fileKey w.package (F.failed.pins.version? w.package) path ∈
          F.failed.context.loaded := by
  obtain ⟨t, o, t', hfine, ho, hpins, hrun, hheld, hkeys⟩ := h.found
  have only : ∀ {P : String → Prop}, P w.package → ∀ package ∈ w.resource.packages, P package :=
    fun hp package hm => (List.mem_singleton.mp hm) ▸ hp
  have hr : (W.again F s w.resource).rel t s₀ :=
    hl.again (only h.concerns) (only h.pinned) hfine ho
      (only (P := fun package => t.pins.get? package = F.failed.pins.get? package) hpins)
  have hshared : (W.again F s w.resource).shared w.package :=
    ⟨List.mem_singleton_self _, h.concerns, h.pinned⟩
  obtain ⟨result, _, s₀', he, he₀, hr', htext⟩ :=
    Tandem.run_of_follows hr ((W.again F s w.resource).lookups.sourceFile hshared)
  rw [hrun] at he
  obtain ⟨rfl, rfl⟩ := Prod.mk.inj he
  exact ⟨o, s₀', he₀, level_of_again hr' hheld, htext o rfl, hkeys⟩

theorem grows_sourceFile (w : Wanted) : W.Grows (Resolution.sourceFile W.c w) :=
  grows_of_follows fun start => (W.growth start).lookups.sourceFile trivial

/-- Without the failing dependency a package has the entry that the failing walk has taken up. -/
theorem Finished.packageEntry {package subPath : String} (hfine : W.Fine F.failed)
    (h : W.Finished F (.package package subPath)) (ha : F.Ahead (.package package subPath))
    (hl : W.Level F s s₀) :
    ∃ o s₀', W.run (packageEntry W.c package subPath) s₀ = (.ok o, s₀') ∧ W.Level F s s₀' ∧
      ∀ w, o = some w → F.Marked w.resource ∧ W.Covered F w := by
  obtain ⟨o, s', hrun, hheld, hkeys⟩ := h.looked
  let r : Resource := .package package subPath
  have hmem : package ∈ r.packages := List.mem_cons_self ..
  have htyped : Package.definitelyTyped package ∈ r.packages :=
    List.mem_cons_of_mem _ (List.mem_singleton_self _)
  have hc : ∀ package ∈ r.packages, F.Concerns package := fun package hm => ⟨r, ha, hm⟩
  have hshared : ∀ package ∈ r.packages, (W.again F s r).shared package := fun package hm =>
    ⟨hm, hc package hm, h.pinned package hm⟩
  have hr : (W.again F s r).rel F.failed s₀ :=
    hl.again hc h.pinned hfine rfl fun _ _ => rfl
  obtain ⟨result, t, s₀', he, he₀, hr', hentry⟩ := Tandem.run_of_follows hr
    ((W.again F s r).lookups.packageEntry (hshared _ hmem) (hshared _ htyped) subPath)
  obtain ⟨entry, t', he', hrest⟩ :=
    W.ok_of_run_bind (w := Resolution.packageEntry W.c package subPath) hrun
  rw [he] at he'
  obtain ⟨rfl, rfl⟩ := Prod.mk.inj he'
  cases entry with
  | none =>
    cases hrest
    exact ⟨none, s₀', he₀, level_of_again hr' hheld, fun _ hw => nomatch hw⟩
  | some w =>
    obtain ⟨file, t', hfile, hrest⟩ := W.ok_of_run_bind hrest
    cases hrest
    obtain ⟨hfinet, hoptions, hpins, hbeside⟩ := hr'
    have hgrown : W.Grown t t' := by
      have h := grows_sourceFile w t hfinet
      rwa [hfile] at h
    have hheldt : ∀ path, W.Held t path → W.Held F.failed path := fun path hp =>
      hheld path (hgrown.held path hp)
    have hl' : W.Level F s s₀' := level_of_again ⟨hfinet, hoptions, hpins, hbeside⟩ hheldt
    obtain ⟨hmarked, hkey⟩ := hkeys w file rfl
    have hw : w.package ∈ r.packages := by
      rcases hentry _ rfl w rfl with he | he <;> rw [he] <;> assumption
    refine ⟨some w, s₀', he₀, hl', ?_⟩
    rintro _ ⟨⟩
    refine ⟨hmarked, hc _ hw, h.pinned _ hw, t, file, t', hfinet, ?_, ?_, hfile, hheld, hkey⟩
    · exact hoptions.trans (hl'.options.symm.trans hl'.grown.options)
    · rw [hpins _ hw, ← hl'.pins _ (hc _ hw), hl'.pinned _ (hc _ hw) (h.pinned _ hw)]

/-! ## Dependencies -/

theorem Grows.enters {enter : Enter ε} (h : ∀ w, W.Grows (enter w)) (start : Scene ε) :
    (W.growth start).Enters enter enter := fun w _ _ => (h w).follows

theorem enters_rel {enters : Option (Enter ε)}
    (h : ∀ enter, enters = some enter → ∀ w, W.Grows (enter w)) (start : Scene ε) :
    Option.Rel (W.growth start).Enters enters enters := by
  cases enters with
  | none => exact .none
  | some enter => exact .some (Grows.enters (h enter rfl) start)

/-- What is done with a file, by both passes and by the one without the failing dependency alone. -/
structure Entering (W : Solo ε) (F : Fork ε) (enter : Enter ε) : Prop where
  grows : ∀ w, W.Grows (enter w)
  both : ∀ w s s₀, F.Concerns w.package → W.Abreast F (enter w) s (enter w) s₀
  behind : ∀ w s s₀, W.Covered F w → W.Abreast F (.pure ()) s (enter w) s₀

theorem grows_openPackage {enter : Enter ε} (h : ∀ w, W.Grows (enter w))
    (package subPath key : String) : W.Grows (openPackage W.c enter package subPath key) :=
  grows_of_follows fun start => (W.growth start).openPackage (Grows.enters h start) ..

theorem grows_once {package : String} {f : String → Walk ε Unit} (h : ∀ key, W.Grows (f key)) :
    W.Grows (once r package f) :=
  grows_of_follows fun start => (W.growth start).once fun key _ _ => (h key).follows

namespace Abreast

variable (hF : W.Clear F)
include hF

section Once

variable {package : String} {f : String → Walk ε Unit} (ha : F.Ahead r) (hp : r.package? = some package)
  (hbehind : F.Marked r → W.Finished F r → ∀ s s₀,
    W.Abreast F (.pure ()) s (f (r.key (F.failed.pins.version? package))) s₀)
include ha hp hbehind

/-- A dependency is taken up by both passes or by none of them, or else the failing walk has taken it
up. -/
theorem once_both (hboth : ∀ key s s₀, W.Abreast F (f key) s (f key) s₀) :
    W.Abreast F (once r package f) s (once r package f) s₀ := by
  refine of_level fun hl => ?_
  have hm : package ∈ r.packages := List.mem_of_mem_head? hp
  have hc : F.Concerns package := ⟨r, ha, hm⟩
  let key := r.key (s.pins.version? package)
  have hs₀ : once r package f s₀ =
      (if s₀.context.resolved.contains key then Walk.pure () else f key) s₀ := by
    have hversion := Pins.version?_of_get? (hl.pins package hc)
    show (if s₀.context.resolved.contains (r.key (s₀.pins.version? package)) then Walk.pure ()
      else f (r.key (s₀.pins.version? package))) s₀ = _
    rw [← hversion]
  have hs : once r package f s =
      (if s.context.resolved.contains key then Walk.pure () else f key) s := rfl
  refine of_eq ?_ hs hs₀
  by_cases hk₀ : key ∈ s₀.context.resolved
  · have hk := (hl.resolved key).mpr (.inl hk₀)
    rw [if_pos (List.contains_iff_mem.mpr hk), if_pos (List.contains_iff_mem.mpr hk₀)]
    exact rest
  · rw [if_neg fun h => hk₀ (List.contains_iff_mem.mp h)]
    by_cases hk : key ∈ s.context.resolved
    · have hfailed := ((hl.resolved key).mp hk).resolve_left hk₀
      have hfinished := hF.taken r _ ha hfailed fun h => hk₀ (hl.grown₀.resolved key h)
      have hversion := hl.atVersion hc (hfinished.pinned package hm)
      have hkey : key = r.key (F.failed.pins.version? package) :=
        congrArg (Resource.key · r) hversion
      have hmarked : F.Marked r := fun other ho => by
        obtain rfl := Option.mem_unique hp ho
        exact hkey ▸ hfailed
      rw [if_pos (List.contains_iff_mem.mpr hk), hkey]
      exact hbehind hmarked hfinished s s₀
    · rw [if_neg fun h => hk (List.contains_iff_mem.mp h)]
      exact hboth key s s₀

theorem once_behind (hmarked : F.Marked r) (hpinned : W.Pinned F.failed.pins package) :
    W.Abreast F (.pure ()) s (once r package f) s₀ := by
  refine of_level fun hl => ?_
  let key := r.key (F.failed.pins.version? package)
  have hs₀ : once r package f s₀ =
      (if s₀.context.resolved.contains key then Walk.pure () else f key) s₀ := by
    have hversion := hl.version_eq ⟨r, ha, List.mem_of_mem_head? hp⟩ hpinned
    show (if s₀.context.resolved.contains (r.key (s₀.pins.version? package)) then Walk.pure ()
      else f (r.key (s₀.pins.version? package))) s₀ = _
    rw [hversion]
  refine of_eq ?_ rfl hs₀
  by_cases hk₀ : key ∈ s₀.context.resolved
  · rw [if_pos (List.contains_iff_mem.mpr hk₀)]
    exact rest
  · have hfinished := hF.taken r _ ha (hmarked package hp) fun h => hk₀ (hl.grown₀.resolved key h)
    rw [if_neg fun h => hk₀ (List.contains_iff_mem.mp h)]
    exact hbehind hmarked hfinished s s₀

end Once

/-! ### Packages -/

section Packages

variable {enter : Enter ε} {package subPath : String} (he : W.Entering F enter)
  (ha : F.Ahead (.package package subPath))
include he ha

omit hF in
theorem openPackage_both (key : String) :
    W.Abreast F (openPackage W.c enter package subPath key) s
      (openPackage W.c enter package subPath key) s₀ := by
  have hp : F.Concerns package := ⟨_, ha, List.mem_cons_self ..⟩
  have ht : F.Concerns (Package.definitelyTyped package) :=
    ⟨_, ha, List.mem_cons_of_mem _ (List.mem_singleton_self _)⟩
  have marked : ∀ {s s₀} key, (mark key : Walk ε Unit).Follows (W.both F).correspondence s (mark key)
      s₀ fun _ => True := fun key => .change (fun hr => Beside.mark hr key) trivial
  refine lookup (marked key) fun _ _ _ _ _ => ?_
  refine lookup ((W.both F).lookups.packageEntry hp ht subPath) fun entry _ _ _ hentry => ?_
  refine lookup ((W.both F).lookups.versionOf hp) fun _ _ _ _ _ => ?_
  refine lookup (marked _) fun _ _ _ _ _ => ?_
  cases entry with
  | none => exact rest
  | some w =>
    have hw : F.Concerns w.package := (hentry w rfl).elim (fun h => h ▸ hp) fun h => h ▸ ht
    refine lookup ((W.both F).lookups.versionOf hw) fun _ _ _ _ _ => ?_
    exact lookup (marked _) fun _ s' s₀' _ _ => he.both w s' s₀' hw

omit hF in
theorem openPackage_behind (hfine : W.Fine F.failed) (hmarked : F.Marked (.package package subPath))
    (h : W.Finished F (.package package subPath)) :
    W.Abreast F (.pure ()) s (openPackage W.c enter package subPath
      ((Resource.package package subPath).key (F.failed.pins.version? package))) s₀ := by
  have hp : F.Concerns package := ⟨_, ha, List.mem_cons_self ..⟩
  have hpinned := h.pinned package (List.mem_cons_self ..)
  have hkey := hmarked package rfl
  refine behind fun hl => ⟨(), _, rfl, hl.mark₀ hkey, behind fun hl => ?_⟩
  obtain ⟨entry, s₀', hrun, hl', hentry⟩ := h.packageEntry hfine ha hl
  refine ⟨entry, s₀', hrun, hl', behind fun hl => ⟨_, s₀', rfl, hl, behind fun hl => ?_⟩⟩
  refine ⟨(), _, rfl, hl.mark₀ (hl.version_eq hp hpinned ▸ hkey), ?_⟩
  cases entry with
  | none => exact rest
  | some w =>
    obtain ⟨hw, hcovered⟩ := hentry w rfl
    refine behind fun hl => ⟨_, _, rfl, hl, behind fun hl => ⟨(), _, rfl, hl.mark₀ ?_, ?_⟩⟩
    · exact hl.version_eq hcovered.concerns hcovered.pinned ▸ hw w.package rfl
    · exact he.behind w s _ hcovered

variable (hfine : W.Fine F.failed)
include hfine

theorem whole_behind (h : W.Finished F (.package package subPath)) (hl : W.Level F s s₀)
    (hsub : subPath ≠ "") (ho : s₀.options.preloadPackages = true) :
    W.Abreast F (.pure ()) s (once (.package package "") package fun rootKey =>
      openPackage W.c enter package "" rootKey) s₀ := by
  have haroot : F.Ahead (.package package "") := .root (hl.grown₀.options ▸ ho) ha
  have hfailed : F.failed.options.preloadPackages = true := by
    rw [← hl.grown.options, hl.options]
    exact ho
  exact once_behind hF haroot rfl (fun hm h _ _ => openPackage_behind he haroot hfine hm h)
    (h.whole package subPath rfl hsub hfailed) (h.pinned package (List.mem_cons_self ..))

theorem visitPackage_finished (hmarked : F.Marked (.package package subPath))
    (h : W.Finished F (.package package subPath)) :
    W.Abreast F (.pure ()) s (Walk.scene >>= fun s₁ =>
      if subPath ≠ "" ∧ s₁.options.preloadPackages = true then
        once (.package package "") package (fun rootKey => openPackage W.c enter package "" rootKey)
          >>= fun _ => openPackage W.c enter package subPath
            ((Resource.package package subPath).key (F.failed.pins.version? package))
      else openPackage W.c enter package subPath
        ((Resource.package package subPath).key (F.failed.pins.version? package))) s₀ := by
  refine read_behind fun hl => ?_
  split
  · next hs =>
    exact andThen_behind (grows_once fun _ => grows_openPackage he.grows _ _ _)
      (grows_openPackage he.grows _ _ _) (whole_behind hF he ha hfine h hl hs.1 hs.2)
      fun _ _ => openPackage_behind he ha hfine hmarked h
  · exact openPackage_behind he ha hfine hmarked h

theorem visitPackage_both :
    W.Abreast F (visitPackage W.c enter package subPath) s (visitPackage W.c enter package subPath)
      s₀ := by
  refine once_both hF ha rfl (fun hm h _ _ => visitPackage_finished hF he ha hfine hm h)
    fun key s s₀ => ?_
  refine read fun hl => ?_
  rw [hl.options]
  split
  · next hs =>
    have haroot : F.Ahead (.package package "") := .root (hl.grown₀.options ▸ hs.2) ha
    refine andThen (grows_once fun _ => grows_openPackage he.grows _ _ _)
      (grows_openPackage he.grows _ _ _) ?_ fun _ _ => openPackage_both he ha key
    exact once_both hF haroot rfl (fun hm h _ _ => openPackage_behind he haroot hfine hm h)
      fun key _ _ => openPackage_both he haroot key
  · exact openPackage_both he ha key

theorem visitPackage_behind (hmarked : F.Marked (.package package subPath))
    (hpinned : W.Pinned F.failed.pins package) :
    W.Abreast F (.pure ()) s (visitPackage W.c enter package subPath) s₀ :=
  once_behind hF ha rfl (fun hm h _ _ => visitPackage_finished hF he ha hfine hm h) hmarked hpinned

end Packages

/-! ### Files of known packages -/

section Files

variable {enter : Enter ε} {w : Wanted} (he : W.Entering F enter) (ha : F.Ahead w.resource)
  (hfine : W.Fine F.failed)
include he ha hfine

omit hF in
theorem visitFile_finished (hmarked : F.Marked w.resource) (h : W.Finished F w.resource) :
    W.Abreast F (.pure ()) s (do
      mark (w.resource.key (F.failed.pins.version? w.package))
      enter w) s₀ := by
  refine behind fun hl => ⟨(), _, rfl, hl.mark₀ (hmarked w.package rfl), ?_⟩
  obtain ⟨o, s', hrun, hheld, hkeys⟩ := h.looked
  have hlook : lookUp W.c w.resource = Resolution.sourceFile W.c w >>= fun file =>
    Walk.pure (some (w, file)) := rfl
  obtain ⟨file, t, hfile, hrest⟩ := W.ok_of_run_bind (hlook ▸ hrun)
  cases hrest
  exact he.behind w s _ ⟨⟨_, ha, List.mem_singleton_self _⟩, h.pinned _ (List.mem_singleton_self _),
    F.failed, file, _, hfine, rfl, rfl, hfile, hheld, (hkeys w file rfl).2⟩

theorem visitFile_both :
    W.Abreast F (visitFile enter w) s (visitFile enter w) s₀ := by
  refine once_both hF ha rfl (fun hm h _ _ => visitFile_finished he ha hfine hm h) fun key s s₀ => ?_
  refine lookup (Q := fun _ => True) (.change (fun hr => Beside.mark hr key) trivial)
    fun _ _ _ _ _ => ?_
  exact he.both w _ _ ⟨_, ha, List.mem_singleton_self _⟩

theorem visitFile_behind (hmarked : F.Marked w.resource)
    (hpinned : W.Pinned F.failed.pins w.package) :
    W.Abreast F (.pure ()) s (visitFile enter w) s₀ :=
  once_behind hF ha rfl (fun hm h _ _ => visitFile_finished he ha hfine hm h) hmarked hpinned

end Files

/-! ### Dependencies and files -/

section Expansions

variable {fileSteps : Nat} {left : Remaining} {cross step : Option (Enter ε)}
  (hd : Descends (fun _ _ => W.Entering F) fileSteps left.crossings left.steps cross step)
  (hfine : W.Fine F.failed)

include hd in
omit hF in
theorem grows_visit (home : Option String) (r : Resource) :
    W.Grows (visit W.c cross step home r) :=
  grows_of_follows fun start => (W.growth start).visit
    (enters_rel (fun enter he => ((hd.crosses enter he).choose_spec.2).grows) start)
    (enters_rel (fun enter he => ((hd.stays enter he).choose_spec.2).grows) start) home r

include hd hfine

theorem visit_both {home : Option String} (ha : left.Allows home r → F.Ahead r) :
    W.Abreast F (visit W.c cross step home r) s (visit W.c cross step home r) s₀ := by
  rcases visit_allowed (c := W.c) hd home r with hr | ⟨hallows, _, _, enter, he, ht⟩
  · rw [hr]
    exact rest
  · generalize visit W.c cross step home r = walk at ht ⊢
    cases ht with
    | package => exact visitPackage_both hF he (ha hallows) hfine
    | file w => exact visitFile_both hF he (ha hallows) hfine

theorem visit_behind {home : Option String}
    (h : left.Allows home r → F.Ahead r ∧ F.Marked r ∧
      ∀ package ∈ r.package?, W.Pinned F.failed.pins package) :
    W.Abreast F (.pure ()) s (visit W.c cross step home r) s₀ := by
  rcases visit_allowed (c := W.c) hd home r with hr | ⟨hallows, _, _, enter, he, ht⟩
  · rw [hr]
    exact rest
  · obtain ⟨ha, hmarked, hpinned⟩ := h hallows
    generalize visit W.c cross step home r = walk at ht ⊢
    cases ht with
    | package => exact visitPackage_behind hF he ha hfine hmarked (hpinned _ rfl)
    | file w => exact visitFile_behind hF he ha hfine hmarked (hpinned _ rfl)

variable {f : File} {version : Option String}

omit hF hfine in
theorem grows_bringIn_rest :
    W.Grows (inject W.c (Package.hostPath f.package f.path) f.text >>= fun _ =>
      importsOf f.text (.resource (.inPackage f.package (Path.dirname f.path) "")) >>= fun rs =>
        Walk.each (visit W.c cross step (some f.package)) rs) := by
  refine .bind (grows_of_follows fun start => (W.growth start).injected ..) fun _ => ?_
  refine .bind (grows_of_follows fun start => (W.growth start).importsOf ..) fun rs => ?_
  exact .each (grows_visit hd _) rs

theorem bringIn_both (hnew : Package.fileKey f.package version f.path ∉ F.start.context.loaded) :
    W.Abreast F (bringIn W.c left cross step f version) s (bringIn W.c left cross step f version)
      s₀ := by
  refine change (fun hl => hl.record _) (knowing (grows_bringIn_rest hd) fun hm => ?_)
  have hm : .expanded f.package version f.path f.text left ∈ F.history := hm _ (List.mem_cons_self ..)
  refine lookup ((W.both F).lookups.injected ..) fun _ _ _ _ _ => ?_
  refine lookup (.ofExcept fun _ h => h) fun rs s s₀ _ hrs => ?_
  refine each (grows_visit hd _) fun r hr s s₀ => visit_both hF hd hfine fun hallows => ?_
  exact .imported hm hnew ⟨rs, ok_of_mapError hrs, hr⟩ hallows

/-- A file that the failing walk has expanded is in the host behind the failure, and its imports were
taken up. -/
theorem bringIn_behind (hnew : Package.fileKey f.package version f.path ∉ F.start.context.loaded)
    (hloaded : Package.fileKey f.package version f.path ∈ F.failed.context.loaded) :
    W.Abreast F (.pure ()) s (bringIn W.c left cross step f version) s₀ := by
  refine behind fun hl => ⟨(), _, rfl, hl.record₀ ?_, knowing (grows_bringIn_rest hd) fun hm => ?_⟩
  · rintro _ ⟨⟩
    exact hloaded
  have hm : .expanded f.package version f.path f.text left ∈ F.history := hm _ (List.mem_cons_self ..)
  obtain ⟨hheld, rs, hrs, hfollowed⟩ := hF.expanded _ _ _ _ _ hm hloaded hnew
  refine behind fun hl => ?_
  obtain ⟨s₀', hrun, hgains⟩ :=
    W.run_inject hl.grown₀.fine (Package.hostPath f.package f.path) f.text
  refine ⟨(), s₀', hrun, hl.gains₀ hgains (.inl (hl.grown.held _ hheld)), behind fun hl => ?_⟩
  refine ⟨rs, s₀', ?_, hl, ?_⟩
  · show ((File.dependencies f).mapError Fault.specifier, s₀') = _
    rw [hrs]
    rfl
  · refine each_behind (grows_visit hd _) fun r hr s s₀ => visit_behind hF hd hfine fun hallows => ?_
    exact ⟨.imported hm hnew ⟨rs, hrs, hr⟩ hallows, hfollowed r hr hallows⟩

theorem expandFound_both {package : String} (hc : F.Concerns package) {o : Option (Value × String)}
    (ho : Lookups.Textual o) :
    W.Abreast F (expandFound W.c left cross step package o) s
      (expandFound W.c left cross step package o) s₀ := by
  match o, ho with
  | none, _ => exact rest
  | some (content, path), ho =>
    obtain ⟨text, rfl⟩ := ho content path rfl
    refine of_level fun hl => of_eq ?_ (expandFound_text ..) (expandFound_text ..)
    rw [← Pins.version?_of_get? (hl.pins package hc)]
    let key := Package.fileKey package (s.pins.version? package) path
    by_cases hk₀ : key ∈ s₀.context.loaded
    · have hk := (hl.loaded key).mpr (.inl hk₀)
      rw [if_pos (List.contains_iff_mem.mpr hk), if_pos (List.contains_iff_mem.mpr hk₀)]
      exact rest
    · have hnew : key ∉ F.start.context.loaded := fun h => hk₀ (hl.grown₀.loaded key h)
      rw [if_neg fun h => hk₀ (List.contains_iff_mem.mp h)]
      by_cases hk : key ∈ s.context.loaded
      · rw [if_pos (List.contains_iff_mem.mpr hk)]
        exact bringIn_behind hF hd hfine hnew (((hl.loaded key).mp hk).resolve_left hk₀)
      · rw [if_neg fun h => hk (List.contains_iff_mem.mp h)]
        exact bringIn_both hF hd hfine hnew

theorem expandFound_behind {package : String} (hc : F.Concerns package)
    (hpinned : W.Pinned F.failed.pins package) {o : Option (Value × String)}
    (ho : Lookups.Textual o)
    (hkeys : ∀ content path, o = some (content, path) →
      Package.fileKey package (F.failed.pins.version? package) path ∈ F.failed.context.loaded) :
    W.Abreast F (.pure ()) s (expandFound W.c left cross step package o) s₀ := by
  match o, ho, hkeys with
  | none, _, _ => exact rest
  | some (content, path), ho, hkeys =>
    obtain ⟨text, rfl⟩ := ho content path rfl
    refine of_level fun hl => of_eq ?_ rfl (expandFound_text ..)
    rw [hl.version_eq hc hpinned]
    by_cases hk₀ : Package.fileKey package (F.failed.pins.version? package) path ∈ s₀.context.loaded
    · rw [if_pos (List.contains_iff_mem.mpr hk₀)]
      exact rest
    · rw [if_neg fun h => hk₀ (List.contains_iff_mem.mp h)]
      exact bringIn_behind hF hd hfine (fun h => hk₀ (hl.grown₀.loaded _ h)) (hkeys _ path rfl)

/-- An expansion keeps the passes abreast if those do that the budget leaves to it. -/
theorem entering : W.Entering F (expandMarked W.c left cross step) where
  grows w := grows_of_follows fun start => (W.growth start).expandMarked
    (enters_rel (fun enter he => ((hd.crosses enter he).choose_spec.2).grows) start)
    (enters_rel (fun enter he => ((hd.stays enter he).choose_spec.2).grows) start) left w _ _
  both w s s₀ hc := by
    refine change (fun hl => hl.record _) (closing ?_ (fun _ _ => List.mem_cons_of_mem _) fun _ _ hl =>
      hl.record _)
    rw [expand_eq]
    exact lookup ((W.both F).lookups.sourceFile hc) fun o s s₀ _ ho =>
      expandFound_both hF hd hfine hc ho
  behind w s s₀ hw := by
    refine behind fun hl => ⟨(), { s₀ with context := s₀.context.record (.entered w) }, rfl,
      hl.record₀ (fun _ h => nomatch h), ?_⟩
    have hrest : (Walk.pure () : Walk ε Unit) s = (Walk.pure ()).closing id s := rfl
    refine of_eq (closing ?_ (fun _ _ => List.mem_cons_of_mem _)
      fun _ _ hl => hl.record₀ (m := .left) fun _ h => nomatch h) hrest rfl
    rw [expand_eq]
    refine behind fun hl => ?_
    obtain ⟨o, s₀', hrun, hl', ho, hkeys⟩ := hw.sourceFile hl
    exact ⟨o, s₀', hrun, hl', expandFound_behind hF hd hfine hw.concerns hw.pinned ho hkeys⟩

end Expansions

/-! ### Dependencies of the source text -/

theorem visitOn_both {budget : Budget} (hfine : W.Fine F.failed)
    (hleft : F.left = ⟨budget.packageDepth.toNat, budget.fileDepth.toNat⟩) (hr : r ∈ F.others) :
    W.Abreast F (visitOn W.c budget F.home r) s (visitOn W.c budget F.home r) s₀ := by
  let cross := across W.c budget.initialFileDepth.toNat budget.packageDepth.toNat
  have hd : Descends (fun _ _ => W.Entering F) budget.initialFileDepth.toNat F.left.crossings
      F.left.steps cross (along W.c budget.packageDepth.toNat cross budget.fileDepth.toNat) := by
    rw [hleft]
    refine along_descends (fun crossings steps cross step hd => ?_) _ _
    show W.Entering F (expandMarked W.c ⟨crossings, steps⟩ cross step)
    exact entering hF hd hfine
  exact visit_both hF hd hfine fun hallows => .first hr hallows

end Abreast
end Solo
end DeclarationFetch.Resolution
