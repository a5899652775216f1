import DeclarationFetch.Proofs.Resolution.Lasting
import DeclarationFetch.Proofs.Resolution.Simulation

/-! # Walks alone with a repository

What walks come to when nobody else acts, with a cache and a host that last.

* `Solo ε`: the collaborators and the repository. `Solo.run w s`: what the walk `w` comes to from `s`.
* `Solo.Quiet`, `Solo.Gains`: nothing that shows has happened; the host has got one file more.
* `Solo.growth`: a walk takes up more dependencies, expands more files and fills the host, and never
  takes anything back.
* `Tandem W`: a relation of scenes that two walks keep when both do the same; `Tandem.lookups` makes the
  laws for lookups from it.
-/

namespace DeclarationFetch.Resolution

variable {ε α β : Type}

/-! ## Nobody else -/

/-- Others who do nothing but answer as the repository does. -/
def lone (ε : Type) (repository : Repository) : Regime ε where
  asks _ _ := True
  answers request s answer s' := answer = repository request.key ∧ s' = s
  valid _ := True
  since _ _ := True
  refl _ := trivial
  trans _ _ := trivial
  valid_of_since _ _ := trivial

theorem Step.ends_lone {repository : Repository} {post : Except Fault α → Scene ε → Prop}
    (step : Step ε α) : step.Ends (lone ε repository) post ↔
      post (step.outcome repository).1 (step.outcome repository).2 := by
  induction step with
  | done result s => exact Iff.rfl
  | fetch request s resume ih =>
    rw [Step.outcome_fetch, ← ih]
    refine ⟨fun h => h.2 _ _ ⟨rfl, rfl⟩, fun h => ⟨trivial, ?_⟩⟩
    rintro _ _ ⟨rfl, rfl⟩
    exact h

/-- Collaborators whose cache and host last, and a repository. -/
structure Solo (ε : Type) where
  c : Collaborators ε
  files : ε → MemoryHost
  fit : ε → Prop
  repository : Repository
  lasting : Lasting c files fit
  coherent : Coherent repository
  onVersions : ∀ pins env, (c.onVersions pins env).1 = .ok ()
  onError : ∀ message env, (c.onError message env).1 = .ok ()

namespace Solo

variable (W : Solo ε) {s s' s'' : Scene ε}

def run (w : Walk ε α) (s : Scene ε) : Except Fault α × Scene ε := (w s).outcome W.repository

theorem run_bind (w : Walk ε α) (f : α → Walk ε β) (s : Scene ε) :
    W.run (w >>= f) s = match W.run w s with
      | (.ok a, s') => W.run (f a) s'
      | (.error fault, s') => (.error fault, s') := by
  show ((w s).andThen _).outcome _ = _
  rw [Step.outcome_andThen]
  unfold run
  cases (w s).outcome W.repository with
  | mk result s' => cases result <;> rfl

theorem ok_of_run_bind {w : Walk ε α} {f : α → Walk ε β} {b : β}
    (h : W.run (w >>= f) s = (.ok b, s')) :
    ∃ a t, W.run w s = (.ok a, t) ∧ W.run (f a) t = (.ok b, s') := by
  rw [run_bind] at h
  split at h
  · next a t he => exact ⟨a, t, he, h⟩
  · cases h

theorem run_rescue (w : Walk ε α) (f : Fault → Walk ε α) (s : Scene ε) :
    W.run (w.rescue f) s = match W.run w s with
      | (.ok a, s') => (.ok a, s')
      | (.error fault, s') => W.run (f fault) s' := by
  show ((w s).andThen _).outcome _ = _
  rw [Step.outcome_andThen]
  unfold run
  cases (w s).outcome W.repository with
  | mk result s' => cases result <;> rfl

theorem run_closing (w : Walk ε α) (f : Context → Context) (s : Scene ε) :
    W.run (w.closing f) s =
      ((W.run w s).1, { (W.run w s).2 with context := f (W.run w s).2.context }) := by
  show ((w s).andThen _).outcome _ = _
  rw [Step.outcome_andThen]
  rfl

/-- The cache agrees with the repository, and both cache and host are fit for use. -/
structure Fine (s : Scene ε) : Prop where
  fit : W.fit s.env
  agrees : Agrees W.c W.repository s.env

def Held (s : Scene ε) (path : String) : Prop := ((W.files s.env).get? path).isSome

/-! ## Single actions -/

/-- Nothing has happened but to the cache and to those who are told. -/
structure Quiet (s s' : Scene ε) : Prop where
  options : s'.options = s.options
  pins : s'.pins = s.pins
  context : s'.context = s.context
  files : W.files s'.env = W.files s.env
  fine : W.Fine s → W.Fine s'

structure Gains (path : String) (s s' : Scene ε) : Prop where
  options : s'.options = s.options
  pins : s'.pins = s.pins
  resolved : s'.context.resolved = s.context.resolved
  history : s'.context.history = s.context.history
  held : ∀ other, W.Held s' other ↔ W.Held s other ∨ other = path
  fine : W.Fine s → W.Fine s'

variable {W}

theorem Quiet.refl : W.Quiet s s := ⟨rfl, rfl, rfl, rfl, id⟩

theorem Quiet.trans (h : W.Quiet s s') (h' : W.Quiet s' s'') : W.Quiet s s'' :=
  ⟨h'.options.trans h.options, h'.pins.trans h.pins, h'.context.trans h.context,
    h'.files.trans h.files, h'.fine ∘ h.fine⟩

theorem Quiet.held (h : W.Quiet s s') (path : String) : W.Held s' path ↔ W.Held s path := by
  unfold Held
  rw [h.files]

theorem Quiet.of_still {env : ε} (h : Still W.c W.files W.fit s.env env) :
    W.Quiet s { s with env := env } where
  options := rfl
  pins := rfl
  context := rfl
  files := h.files
  fine hs := ⟨h.fit hs.fit, fun key text hk => hs.agrees key text (h.held key ▸ hk)⟩

theorem Gains.of_quiet {path : String} (h : W.Quiet s s') (hp : W.Held s path) :
    W.Gains path s s' where
  options := h.options
  pins := h.pins
  resolved := h.context ▸ rfl
  history := h.context ▸ rfl
  held other := (h.held other).trans ⟨.inl, fun ho => ho.elim id fun he => he ▸ hp⟩
  fine := h.fine

variable (W)

theorem quiet_act {f : ε → Except Fault Unit × ε} (h : Steady W.c W.files W.fit f) (s : Scene ε) :
    W.Quiet s (W.run (Walk.act f) s).2 := .of_still (h.still s.env)

theorem run_act_fst {f : ε → Except Fault Unit × ε} (h : Steady W.c W.files W.fit f)
    (s s' : Scene ε) : (W.run (Walk.act f) s).1 = (W.run (Walk.act f) s').1 := h.result ..

theorem quiet_afterStore (hs : W.Fine s) {key text : String}
    (hk : W.repository key = .ok (some text)) : W.Quiet s (W.c.afterStore key text s) := by
  have hstored : W.Quiet s { s with env := (W.c.store key text s.env).2 } :=
    { options := rfl
      pins := rfl
      context := rfl
      files := W.lasting.files_store ..
      fine := fun _ => ⟨W.lasting.fit_store _ _ _ hs.fit, W.lasting.agrees_store hs.fit hs.agrees hk⟩ }
  exact hstored.trans (.of_still (W.lasting.still_afterReport ..))

theorem run_retrieve (hs : W.Fine s) (package path : String) :
    ∃ s', W.run (retrieve W.c package path) s =
        ((W.repository (Package.fileKey package (s.pins.version? package) path)).map
          (Option.map .text), s') ∧ W.Quiet s s' := by
  let key := Package.fileKey package (s.pins.version? package) path
  have hcached : W.Quiet s { s with env := (W.c.cached key s.env).2 } :=
    .of_still (W.lasting.still_cached ..)
  obtain ⟨o, ho⟩ := W.lasting.cached key s.env
  cases o with
  | some text =>
    refine ⟨W.c.afterHit key s, ?_, hcached.trans (.of_still (W.lasting.still_afterReport ..))⟩
    unfold run
    rw [retrieve_of_held W.lasting.toCacheCalm ho, hs.agrees key text ho]
    rfl
  | none =>
    unfold run
    rw [retrieve_of_missing W.lasting.toCacheCalm ho, Step.outcome_fetch, Request.key_of_pins]
    cases hk : W.repository key with
    | error fault => exact ⟨_, rfl, hcached⟩
    | ok found =>
      cases found with
      | none => exact ⟨_, rfl, hcached⟩
      | some text =>
        exact ⟨_, rfl, hcached.trans (W.quiet_afterStore (hcached.fine hs) hk)⟩

theorem run_inject (hs : W.Fine s) (path text : String) :
    ∃ s', W.run (inject W.c path text) s = (.ok (), s') ∧ W.Gains path s s' := by
  obtain ⟨result, s', he, hi⟩ := inject_eq_done (c := W.c) path text s
  have hhosted : W.Quiet s { s with env := (W.c.hosted path s.env).2 } :=
    .of_still (W.lasting.still_hosted ..)
  have hrun : W.run (inject W.c path text) s = (result, s') := congrArg (Step.outcome _) he
  rw [hrun]
  cases hi with
  | unreadable h => cases (W.lasting.hosted path s.env).symm.trans h
  | present h =>
    have hpresent : (W.files s.env).get? path = some text :=
      Except.ok.inj ((W.lasting.hosted path s.env).symm.trans h)
    exact ⟨_, rfl, .of_quiet hhosted (Option.isSome_of_eq_some hpresent)⟩
  | refused h hf => cases (W.lasting.host ..).symm.trans hf
  | placed h hf =>
    refine ⟨_, rfl, ⟨rfl, rfl, rfl, rfl, fun other => ?_, fun _ => ?_⟩⟩
    · show ((W.files (W.c.host path text (W.c.hosted path s.env).2).2).get? other).isSome ↔ _
      rw [W.lasting.files_host _ _ _ (hhosted.fine hs).fit, MemoryHost.get?_set]
      by_cases hp : path = other
      · simp [hp]
      · rw [if_neg hp]
        exact (hhosted.held other).trans ⟨.inl, fun h => h.resolve_right fun he => hp he.symm⟩
    · exact ⟨W.lasting.fit_host _ _ _ (hhosted.fine hs).fit, fun key text' hk =>
        (hhosted.fine hs).agrees key text' (W.lasting.held_host .. ▸ hk)⟩

theorem run_keep {key text : String} (hk : W.repository key = .ok (some text)) :
    ∃ s', W.run (keep W.c key text) s = (.ok (), s') ∧ W.Quiet s s' := by
  refine ⟨{ s with env := W.c.afterKeep key text s.env }, ?_, ?_⟩
  · exact congrArg (Step.outcome _) (keep_of_calm W.lasting.toCacheCalm key text)
  · have hknown : W.Quiet s { s with env := (W.c.isCached key s.env).2 } :=
      .of_still (W.lasting.still_isCached ..)
    unfold Collaborators.afterKeep
    split
    · exact hknown
    · refine hknown.trans ⟨rfl, rfl, rfl, W.lasting.files_store .., fun h => ?_⟩
      exact ⟨W.lasting.fit_store _ _ _ h.fit, W.lasting.agrees_store h.fit h.agrees hk⟩

theorem run_handle (fault : Fault) (s : Scene ε) :
    ∃ s', W.run (handle W.c fault) s =
        (if fault.handled?.isSome && s.options.handlers.errors then .ok () else .error fault, s') ∧
      W.Quiet s s' := by
  unfold Solo.run
  cases h : fault.handled? with
  | none =>
    rw [handle_of_unhandled (.inl h)]
    exact ⟨s, rfl, .refl⟩
  | some message =>
    cases he : s.options.handlers.errors with
    | false =>
      rw [handle_of_unhandled (.inr he)]
      exact ⟨s, rfl, .refl⟩
    | true =>
      rw [handle_of_handled h he]
      exact ⟨_, Prod.ext (W.onError message s.env) rfl, W.quiet_act (W.lasting.onError message) s⟩

/-! ## Growth -/

/-- What a walk has added to a scene. -/
structure Grown (s s' : Scene ε) : Prop where
  fine : W.Fine s'
  options : s'.options = s.options
  resolved : ∀ key ∈ s.context.resolved, key ∈ s'.context.resolved
  history : ∀ m ∈ s.context.history, m ∈ s'.context.history
  held : ∀ path, W.Held s path → W.Held s' path

variable {W}

theorem Grown.refl (h : W.Fine s) : W.Grown s s := ⟨h, rfl, fun _ => id, fun _ => id, fun _ => id⟩

theorem Grown.trans (h : W.Grown s s') (h' : W.Grown s' s'') : W.Grown s s'' :=
  ⟨h'.fine, h'.options.trans h.options, fun key hk => h'.resolved key (h.resolved key hk),
    fun m hm => h'.history m (h.history m hm), fun path hp => h'.held path (h.held path hp)⟩

theorem Grown.loaded (h : W.Grown s s') : ∀ key ∈ s.context.loaded, key ∈ s'.context.loaded :=
  fun key hk => by
    obtain ⟨m, hm, he⟩ := List.mem_filterMap.mp hk
    exact List.mem_filterMap.mpr ⟨m, h.history m hm, he⟩

theorem Grown.quiet (h : W.Grown s s') (hq : W.Quiet s' s'') : W.Grown s s'' where
  fine := hq.fine h.fine
  options := hq.options.trans h.options
  resolved key hk := hq.context ▸ h.resolved key hk
  history m hm := hq.context ▸ h.history m hm
  held path hp := (hq.held path).mpr (h.held path hp)

theorem Grown.gains {path : String} (h : W.Grown s s') (hg : W.Gains path s' s'') :
    W.Grown s s'' where
  fine := hg.fine h.fine
  options := hg.options.trans h.options
  resolved key hk := hg.resolved ▸ h.resolved key hk
  history m hm := hg.history ▸ h.history m hm
  held other hp := (hg.held other).mpr (.inl (h.held other hp))

theorem Grown.mark (h : W.Grown s s') (key : String) :
    W.Grown s { s' with context := s'.context.mark key } where
  fine := ⟨h.fine.fit, h.fine.agrees⟩
  options := h.options
  resolved other ho := Context.mem_resolved_mark.mpr (.inl (h.resolved other ho))
  history m hm := (Context.history_mark _ key).symm ▸ h.history m hm
  held := h.held

theorem Grown.record (h : W.Grown s s') (m : Milestone) :
    W.Grown s { s' with context := s'.context.record m } where
  fine := ⟨h.fine.fit, h.fine.agrees⟩
  options := h.options
  resolved := h.resolved
  history m' hm := List.mem_cons_of_mem m (h.history m' hm)
  held := h.held

theorem Grown.pins (h : W.Grown s s') (pins : Pins) : W.Grown s { s' with pins := pins } :=
  ⟨⟨h.fine.fit, h.fine.agrees⟩, h.options, h.resolved, h.history, h.held⟩

variable (W)

/-- One walk, from a scene that has grown out of another. -/
def growing (start : Scene ε) : Correspondence ε ε where
  repository := W.repository
  regime := lone ε W.repository
  rel s s₀ := s = s₀ ∧ W.Grown start s

def Grows (w : Walk ε α) : Prop := ∀ s, W.Fine s → W.Grown s (W.run w s).2

variable {W}

theorem follows_of_grown {start s₀ : Scene ε} {w : Walk ε α} {Q : α → Prop}
    (h : W.Grown start s → W.Grown start (W.run w s).2 ∧ ∀ a, (W.run w s).1 = .ok a → Q a) :
    w.Follows (W.growing start) s w s₀ Q := by
  refine ⟨fun hr => (Step.ends_lone _).mpr ?_⟩
  obtain ⟨rfl, hg⟩ := hr
  exact ⟨(W.run w s).2, rfl, ⟨rfl, (h hg).1⟩, (h hg).2⟩

theorem grown_of_follows {start : Scene ε} {w : Walk ε α} {Q : α → Prop} (hg : W.Grown start s)
    (h : w.Follows (W.growing start) s w s Q) : W.Grown start (W.run w s).2 := by
  obtain ⟨s₀', _, hr, _⟩ := (Step.ends_lone _).mp (h.ends ⟨rfl, hg⟩)
  exact hr.2

theorem Grows.follows {w : Walk ε α} (h : W.Grows w) {start s₀ : Scene ε} :
    w.Follows (W.growing start) s w s₀ fun _ => True :=
  follows_of_grown fun hg => ⟨hg.trans (h s hg.fine), fun _ _ => trivial⟩

theorem grows_of_follows {w : Walk ε α} {Q : α → Prop}
    (h : ∀ s, w.Follows (W.growing s) s w s Q) : W.Grows w := fun s hs =>
  grown_of_follows (.refl hs) (h s)

theorem Grows.bind {w : Walk ε α} {f : α → Walk ε β} (h : W.Grows w) (hf : ∀ a, W.Grows (f a)) :
    W.Grows (w >>= f) := fun s hs => by
  rw [run_bind]
  have hw := h s hs
  split
  · next a s' he =>
    rw [he] at hw
    exact hw.trans (hf a s' hw.fine)
  · next fault s' he =>
    rw [he] at hw
    exact hw

theorem Grows.each {walk : α → Walk ε Unit} (h : ∀ a, W.Grows (walk a)) (l : List α) :
    W.Grows (Walk.each walk l) := by
  induction l with
  | nil => exact fun s hs => .refl hs
  | cons a rest ih => exact (h a).bind fun _ => ih

variable (W)

/-- Everything that a pass does adds to its scene. -/
def growth (start : Scene ε) : Simulation W.c W.c where
  toCorrespondence := W.growing start
  options_eq h := h.1 ▸ rfl
  pins_eq h := h.1 ▸ rfl
  resolved_eq h := h.1 ▸ rfl
  history_eq h := h.1 ▸ rfl
  marked key h := ⟨by rw [h.1], h.2.mark key⟩
  recorded m h := ⟨by rw [h.1], h.2.record m⟩
  pinned pins h := ⟨by rw [h.1], h.2.pins pins⟩
  retrieved package path := follows_of_grown fun hg => by
    obtain ⟨s', he, hq⟩ := W.run_retrieve hg.fine package path
    rw [he]
    refine ⟨hg.quiet hq, fun o ho value hv => ?_⟩
    cases hk : W.repository (Package.fileKey package _ path) with
    | error fault =>
      rw [hk] at ho
      cases ho
    | ok found =>
      rw [hk] at ho
      cases ho
      obtain ⟨text, rfl, rfl⟩ := Option.map_eq_some_iff.mp hv
      exact ⟨text, _, rfl, hk⟩
  reported u _ := follows_of_grown fun hg =>
    ⟨hg.quiet (W.quiet_act (W.lasting.onUpdate u) _), fun _ _ => trivial⟩
  injected path text := follows_of_grown fun hg => by
    obtain ⟨s', he, hi⟩ := W.run_inject hg.fine path text
    rw [he]
    exact ⟨hg.gains hi, fun _ _ => trivial⟩
  versioned pins := follows_of_grown fun hg =>
    ⟨hg.quiet (W.quiet_act (W.lasting.onVersions pins) _), fun _ _ => trivial⟩
  kept := by
    rintro s s₀ package directory text manifest named ⟨_, version, ⟨⟩, hserved⟩ hm hv
    refine follows_of_grown fun hg => ?_
    obtain ⟨s', he, hq⟩ :=
      W.run_keep (W.coherent package version directory _ manifest named hserved hm hv)
    rw [he]
    exact ⟨hg.quiet hq, fun _ _ => trivial⟩
  failed message := follows_of_grown fun hg =>
    ⟨hg.quiet (W.quiet_act (W.lasting.onError message) _), fun _ _ => trivial⟩

end Solo

/-! ## Two walks at once -/

/-- A relation of two scenes that is kept when the same happens in both. The pins are the same for some
of the packages, and each of these is at certain versions only. -/
structure Tandem (W : Solo ε) where
  rel : Scene ε → Scene ε → Prop
  shared : String → Prop
  versions : String → Option String → Prop
  fine : ∀ {s s₀}, rel s s₀ → W.Fine s ∧ W.Fine s₀
  options_eq : ∀ {s s₀}, rel s s₀ → s.options = s₀.options
  pin_eq : ∀ {s s₀ package}, rel s s₀ → shared package → s.pins.get? package = s₀.pins.get? package
  version : ∀ {s s₀ package}, rel s s₀ → shared package → versions package (s.pins.version? package)
  quiet : ∀ {s s₀ s' s₀'}, rel s s₀ → W.Quiet s s' → W.Quiet s₀ s₀' → rel s' s₀'
  gains : ∀ {path s s₀ s' s₀'}, rel s s₀ → W.Gains path s s' → W.Gains path s₀ s₀' → rel s' s₀'
  /-- A package gets a new pin by a manifest at one of its versions. -/
  pinned : ∀ {s s₀ package version directory text manifest named}, rel s s₀ → shared package →
    versions package version →
      W.repository (Package.fileKey package version (Path.join [directory, "package.json"])) =
          .ok (some text) →
        Manifest.read package text = .ok manifest → manifest.version? = some named →
          s.pins.agrees package named = false →
            rel { s with pins := s.pins.insert package (.text named) }
              { s₀ with pins := s₀.pins.insert package (.text named) }

namespace Tandem

variable {W : Solo ε} (T : Tandem W) {s s₀ : Scene ε} {package : String}

def correspondence : Correspondence ε ε where
  repository := W.repository
  regime := lone ε W.repository
  rel := T.rel

variable {T}

theorem follows {w : Walk ε α} {w₀ : Walk ε α} {Q : α → Prop}
    (h : T.rel s s₀ → ∃ result s' s₀', W.run w s = (result, s') ∧ W.run w₀ s₀ = (result, s₀') ∧
      T.rel s' s₀' ∧ ∀ a, result = .ok a → Q a) : w.Follows T.correspondence s w₀ s₀ Q := by
  refine ⟨fun hr => (Step.ends_lone _).mpr ?_⟩
  obtain ⟨result, s', s₀', he, he₀, hr', hq⟩ := h hr
  have he : (w s).outcome W.repository = (result, s') := he
  rw [he]
  exact ⟨s₀', he₀, hr', hq⟩

theorem run_of_follows {w w₀ : Walk ε α} {Q : α → Prop} (hr : T.rel s s₀)
    (h : w.Follows T.correspondence s w₀ s₀ Q) :
    ∃ result s' s₀', W.run w s = (result, s') ∧ W.run w₀ s₀ = (result, s₀') ∧ T.rel s' s₀' ∧
      ∀ a, result = .ok a → Q a := by
  obtain ⟨s₀', he₀, hr', hq⟩ := (Step.ends_lone _).mp (h.ends hr)
  exact ⟨_, _, s₀', rfl, he₀, hr', hq⟩

theorem act {f : ε → Except Fault Unit × ε} (h : Steady W.c W.files W.fit f) :
    (Walk.act f).Follows T.correspondence s (Walk.act f) s₀ fun _ => True :=
  follows fun hr => ⟨_, _, (W.run (Walk.act f) s₀).2, rfl, Prod.ext (W.run_act_fst h s₀ s) rfl,
    T.quiet hr (W.quiet_act h s) (W.quiet_act h s₀), fun _ _ => trivial⟩

theorem agrees_eq (hr : T.rel s s₀) (hp : T.shared package) (named : String) :
    s.pins.agrees package named = s₀.pins.agrees package named := by
  unfold Pins.agrees
  rw [T.pin_eq hr hp]

/-- What is served for a package that both walks have at the same version. -/
def Served (T : Tandem W) (package path : String) (value : Value) : Prop :=
  ∃ text version, value = .text text ∧ T.versions package version ∧
    W.repository (Package.fileKey package version path) = .ok (some text)

theorem retrieve (hp : T.shared package) (path : String) :
    (retrieve W.c package path).Follows T.correspondence s (retrieve W.c package path) s₀
      fun o => ∀ value, o = some value → T.Served package path value := by
  refine follows fun hr => ?_
  obtain ⟨s', he, hq⟩ := W.run_retrieve (T.fine hr).1 package path
  obtain ⟨s₀', he₀, hq₀⟩ := W.run_retrieve (T.fine hr).2 package path
  rw [← Pins.version?_of_get? (T.pin_eq hr hp)] at he₀
  refine ⟨_, s', s₀', he, he₀, T.quiet hr hq hq₀, fun o ho value hv => ?_⟩
  cases hk : W.repository (Package.fileKey package (s.pins.version? package) path) with
  | error fault =>
    rw [hk] at ho
    cases ho
  | ok found =>
    rw [hk] at ho
    cases ho
    obtain ⟨text, rfl, rfl⟩ := Option.map_eq_some_iff.mp hv
    exact ⟨text, _, rfl, T.version hr hp, hk⟩

theorem pin {directory text named : String} {manifest : Manifest} (hp : T.shared package)
    (hs : T.Served package (Path.join [directory, "package.json"]) (.text text))
    (hm : Manifest.read package text = .ok manifest) (hn : manifest.version? = some named) :
    (pin W.c package named).Follows T.correspondence s (pin W.c package named) s₀ fun _ => True := by
  obtain ⟨_, version, ⟨⟩, hv, hserved⟩ := hs
  refine .read fun hr => ?_
  dsimp only
  rw [← T.agrees_eq hr hp]
  refine .ite (fun _ => .pure trivial) fun ha => ?_
  have hpins : T.rel { s with pins := s.pins.insert package (.text named) }
      { s₀ with pins := s₀.pins.insert package (.text named) } :=
    T.pinned hr hp hv hserved hm hn (by simpa using ha)
  refine .bind (Q := fun _ => True) (.of_done rfl rfl (fun _ => hpins) fun _ _ => trivial)
    fun _ s₁ s₁' _ _ => .read fun hr₁ => ?_
  rw [T.options_eq hr₁]
  refine .ite (fun _ => follows fun hr₁ => ?_) fun _ => .pure trivial
  exact ⟨.ok (), _, _, Prod.ext (W.onVersions ..) rfl, Prod.ext (W.onVersions ..) rfl,
    T.quiet hr₁ (W.quiet_act (W.lasting.onVersions _) _) (W.quiet_act (W.lasting.onVersions _) _),
    fun _ _ => trivial⟩

/-- What lookups come to in both walks. -/
def lookups (T : Tandem W) : Lookups W.c W.c where
  toCorrespondence := T.correspondence
  shared := T.shared
  served := T.Served
  text_of_served := fun ⟨text, _, h, _⟩ => ⟨text, h⟩
  options_eq := T.options_eq
  pin_eq := T.pin_eq
  retrieved path hp := retrieve hp path
  reported u _ := act (W.lasting.onUpdate u)
  injected path text := follows fun hr => by
    obtain ⟨s', he, hi⟩ := W.run_inject (T.fine hr).1 path text
    obtain ⟨s₀', he₀, hi₀⟩ := W.run_inject (T.fine hr).2 path text
    exact ⟨_, s', s₀', he, he₀, T.gains hr hi hi₀, fun _ _ => trivial⟩
  pinned hp hs hm hn := pin hp hs hm hn
  kept := by
    rintro s s₀ package directory text manifest named ⟨_, version, ⟨⟩, _, hserved⟩ hm hn
    refine follows fun hr => ?_
    have hk := W.coherent package version directory _ manifest named hserved hm hn
    obtain ⟨s', he, hq⟩ := W.run_keep (s := s) hk
    obtain ⟨s₀', he₀, hq₀⟩ := W.run_keep (s := s₀) hk
    exact ⟨_, s', s₀', he, he₀, T.quiet hr hq hq₀, fun _ _ => trivial⟩

end Tandem

end DeclarationFetch.Resolution
