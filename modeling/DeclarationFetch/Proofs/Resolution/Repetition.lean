import DeclarationFetch.Proofs.Resolution.Lasting
import DeclarationFetch.Proofs.Resolution.Simulation

/-! # Passes made again

A pass that is made again, with a cache that was kept and a host that nobody else has touched.

* `handed log`: the texts that a pass has handed to the host, with their paths.
* `tracing c`: collaborators that put down what the host is handed and what the cache is to hold. Both
  passes are alike to the one pass that works with them.
* `pass_repeated`: the second pass gives the host nothing, and asks for nothing that there is.
-/

namespace DeclarationFetch.Resolution

variable {ε : Type} {c : Collaborators ε} {files : ε → MemoryHost} {fit : ε → Prop}
  {repository : Repository}

/-! ## What the host is handed -/

theorem inject_of_held {path text : String} {s : Scene ε}
    (h : (c.hosted path s.env).1 = .ok (some text)) :
    inject c path text s = .done (.ok ()) { s with env := (c.hosted path s.env).2 } := by
  simp [inject, Walk.act, pure, Walk.pure, bind, Walk.bind, Step.andThen, h]

theorem inject_of_other {path text : String} {held : Option String} {s : Scene ε}
    (h : (c.hosted path s.env).1 = .ok held) (hne : held ≠ some text)
    (hf : (c.host path text (c.hosted path s.env).2).1 = .ok ()) :
    inject c path text s = .done (.ok ())
      { s with
        env := (c.host path text (c.hosted path s.env).2).2
        context := s.context.inject path } := by
  simp [inject, Walk.act, Walk.change, pure, bind, Walk.bind, Step.andThen, h, hne, hf]

/-- The texts that the host was handed, with their paths, the latest first. A text that it has already is
not given to it again. -/
def handed : List Observation → List (String × String)
  | .placed path text :: .hosted _ _ :: log => (path, text) :: handed log
  | .hosted path (.ok (some text)) :: log => (path, text) :: handed log
  | _ :: log => handed log
  | [] => []

def Unanimous (entries : List (String × String)) : Prop :=
  ∀ entry ∈ entries, ∀ entry' ∈ entries, entry.1 = entry'.1 → entry.2 = entry'.2

instance (entries : List (String × String)) : Decidable (Unanimous entries) :=
  inferInstanceAs (Decidable (∀ _ ∈ _, ∀ _ ∈ _, _ → _))

def Furnished (host : MemoryHost) (entries : List (String × String)) : Prop :=
  ∀ entry ∈ entries, host.get? entry.1 = some entry.2

theorem Furnished.set {host : MemoryHost} {entries : List (String × String)} {path text : String}
    (h : Furnished host entries) (hu : Unanimous ((path, text) :: entries)) :
    Furnished (host.set path text) ((path, text) :: entries) := by
  intro entry he
  rw [MemoryHost.get?_set]
  split
  · next hp => exact congrArg some (hu _ (List.mem_cons_self ..) entry he hp)
  · next hp =>
    rcases List.mem_cons.mp he with rfl | he
    · exact absurd rfl hp
    · exact h entry he

theorem Unanimous.tail {entry : String × String} {entries : List (String × String)}
    (h : Unanimous (entry :: entries)) : Unanimous entries := fun e he e' he' =>
  h e (List.mem_cons_of_mem _ he) e' (List.mem_cons_of_mem _ he')

theorem Furnished.tail {host : MemoryHost} {entry : String × String} {entries : List (String × String)}
    (h : Furnished host (entry :: entries)) : Furnished host entries := fun e he =>
  h e (List.mem_cons_of_mem _ he)

/-! ## The pass that is traced -/

/-- What the host was handed, and what the cache is to hold. -/
structure Trace where
  handed : List (String × String) := []
  served : List (String × String) := []

/-- Collaborators that put down what the host is handed and what the cache is to hold, and have nothing
in either. The handlers do what they do in the environment `env`. -/
def tracing (c : Collaborators ε) (env : ε) : Collaborators Trace where
  cached _ t := (.ok none, t)
  isCached _ t := (.ok false, t)
  store key text t := (.ok (), { t with served := (key, text) :: t.served })
  hosted _ t := (.ok none, t)
  host path text t := (.ok (), { t with handed := (path, text) :: t.handed })
  makeRoom _ t := (.ok (), t)
  onUpdate u t := ((c.onUpdate u env).1, t)
  onVersions pins t := ((c.onVersions pins env).1, t)
  onError message t := ((c.onError message env).1, t)

theorem Lasting.calm_tracing (hc : Lasting c files fit) (env : ε) : CacheCalm (tracing c env) where
  cached _ _ := ⟨none, rfl⟩
  isCached _ _ := ⟨false, rfl⟩
  store _ _ _ := rfl
  told u _ hu := hc.told u env hu

/-! ## Others -/

/-- While a pass waits, and between passes, others may put into the cache what the repository answers. -/
structure Meantime (c : Collaborators ε) (files : ε → MemoryHost) (fit : ε → Prop)
    (repository : Repository) (s s' : Scene ε) : Prop where
  options : s'.options = s.options
  pins : s'.pins = s.pins
  context : s'.context = s.context
  fit : fit s.env → fit s'.env
  files : files s'.env = files s.env
  keeps : Keeps c s.env s'.env
  agrees : Agrees c repository s.env → Agrees c repository s'.env

def adding (c : Collaborators ε) (files : ε → MemoryHost) (fit : ε → Prop)
    (repository : Repository) : Regime ε where
  asks _ _ := True
  answers request s answer s' := answer = repository request.key ∧ Meantime c files fit repository s s'
  valid _ := True
  since _ _ := True
  refl _ := trivial
  trans _ _ := trivial
  valid_of_since _ _ := trivial

/-! ## Beside the pass that is traced -/

/-- The cache agrees with the repository, has what it had at the start, and what was served. -/
structure Stocked (c : Collaborators ε) (repository : Repository) (start env : ε)
    (served : List (String × String)) : Prop where
  agrees : Agrees c repository env
  keeps : Keeps c start env
  served : ∀ entry ∈ served, c.held env entry.1 = .ok (some (.text entry.2))

/-- What was asked for was not in the cache at the start, and was served if there is such a file. -/
def Asked (c : Collaborators ε) (repository : Repository) (start : ε) (log : List Observation)
    (served : List (String × String)) : Prop :=
  ∀ request answer, .answered request answer ∈ log → c.held start request.key = .ok none ∧
    ∀ text, repository request.key = .ok (some text) → (request.key, text) ∈ served

structure Idle (files : ε → MemoryHost) (start : ε) (s : Scene (Watched ε)) : Prop where
  files : files s.env.env = files start
  given : givenPaths s.env.log = []
  newImports : s.context.newImports = false
  injected : s.context.injected = []

/-- The host was handed these texts. It has them if there is one text for each path, and was given
nothing if it had them at the start. -/
structure Hosting (files : ε → MemoryHost) (start : ε) (s : Scene (Watched ε))
    (entries : List (String × String)) : Prop where
  handed : handed s.env.log = entries
  furnished : Unanimous entries → Furnished (files s.env.env) entries
  idle : Furnished (files start) entries → Idle files start s

/-- A scene of a pass from the scene `start`, and one of the same pass traced. -/
structure Replays (c : Collaborators ε) (files : ε → MemoryHost) (fit : ε → Prop)
    (repository : Repository) (start : Scene ε) (s : Scene (Watched ε)) (s₀ : Scene Trace) : Prop where
  unchanged : s.options = start.options
  options : s.options = s₀.options
  pins : s.pins = s₀.pins
  resolved : s.context.resolved = s₀.context.resolved
  history : s.context.history = s₀.context.history
  fit : fit s.env.env
  stocked : Stocked c repository start.env s.env.env s₀.env.served
  asked : Asked c repository start.env s.env.log s₀.env.served
  hosting : Hosting files start.env s s₀.env.handed

/-- Nothing of the cache or the host has changed, and nothing was asked for or handed to the host. -/
structure Unmoved (c : Collaborators ε) (files : ε → MemoryHost) (fit : ε → Prop) (e e' : Watched ε) :
    Prop where
  still : Still c files fit e.env e'.env
  handed : handed e'.log = handed e.log
  given : givenPaths e'.log = givenPaths e.log
  answered : ∀ request answer, .answered request answer ∈ e'.log → .answered request answer ∈ e.log

namespace Unmoved

variable {e e' e'' : Watched ε} {env : ε}

theorem of_still (h : Still c files fit e.env env) : Unmoved c files fit e ⟨env, e.log⟩ :=
  ⟨h, rfl, rfl, fun _ _ => id⟩

theorem cached {key : String} {result : Except Fault (Option Value)}
    (h : Still c files fit e.env env) : Unmoved c files fit e ⟨env, .cached key result :: e.log⟩ :=
  ⟨h, rfl, rfl, fun _ _ hm => (List.mem_cons.mp hm).resolve_left fun he => nomatch he⟩

theorem failed {message : String} (h : Still c files fit e.env env) :
    Unmoved c files fit e ⟨env, .failed message :: e.log⟩ :=
  ⟨h, rfl, rfl, fun _ _ hm => (List.mem_cons.mp hm).resolve_left fun he => nomatch he⟩

theorem afterReport (hc : Lasting c files fit) (options : Options) (u : Update) (e : Watched ε) :
    Unmoved c files fit e (c.watched.afterReport options u e) := by
  have hlog : c.watched.afterReport options u e = ⟨c.afterReport options u e.env, e.log⟩ := by
    unfold Collaborators.afterReport
    split <;> rfl
  rw [hlog]
  exact .of_still (hc.still_afterReport options u e.env)

end Unmoved

section Replaying

variable {start env env' : ε} {first : Scene ε} {served served' entries : List (String × String)}
  {log : List Observation} {s : Scene (Watched ε)} {s₀ : Scene Trace} {e' : Watched ε}

theorem Hosting.of_eq {s' : Scene (Watched ε)} (h : Hosting files start s entries)
    (hf : files s'.env.env = files s.env.env)
    (hh : Resolution.handed s'.env.log = Resolution.handed s.env.log)
    (hg : givenPaths s'.env.log = givenPaths s.env.log)
    (hn : s'.context.newImports = s.context.newImports)
    (hi : s'.context.injected = s.context.injected) : Hosting files start s' entries where
  handed := hh.trans h.handed
  furnished hone := hf ▸ h.furnished hone
  idle hall :=
    have hidle := h.idle hall
    ⟨hf.trans hidle.files, hg.trans hidle.given, hn.trans hidle.newImports, hi.trans hidle.injected⟩

theorem Hosting.meantime {s' : Scene (Watched ε)} {request : Request} {answer : Answer}
    (h : Hosting files start s entries)
    (hm : Meantime c files fit repository s.unwatched s'.unwatched)
    (hlog : s'.env.log = .answered request answer :: s.env.log) : Hosting files start s' entries := by
  have hcontext : s'.context = s.context := hm.context
  refine h.of_eq hm.files ?_ ?_ (hcontext ▸ rfl) (hcontext ▸ rfl) <;> rw [hlog] <;> rfl

theorem Stocked.of_held_eq (h : Stocked c repository start env served)
    (hs : ∀ key, c.held env' key = c.held env key) : Stocked c repository start env' served where
  agrees key text hk := h.agrees key text (hs key ▸ hk)
  keeps key text hk := (hs key).trans (h.keeps key text hk)
  served entry he := (hs _).trans (h.served entry he)

theorem Stocked.meantime (h : Stocked c repository start env served) {s s' : Scene ε}
    (hm : Meantime c files fit repository s s') (he : s.env = env) :
    Stocked c repository start s'.env served := by
  subst he
  exact ⟨hm.agrees h.agrees, fun key text hk => hm.keeps key text (h.keeps key text hk),
    fun entry hs => hm.keeps _ _ (h.served entry hs)⟩

theorem Stocked.hit (h : Stocked c repository start env served) {key text : String}
    (hk : c.held env key = .ok (some (.text text))) :
    Stocked c repository start env ((key, text) :: served) :=
  ⟨h.agrees, h.keeps, List.forall_mem_cons.mpr ⟨hk, h.served⟩⟩

theorem Asked.mono (h : Asked c repository start log served)
    (hs : ∀ entry ∈ served, entry ∈ served') : Asked c repository start log served' :=
  fun request answer hm =>
    have ha := h request answer hm
    ⟨ha.1, fun text ht => hs _ (ha.2 text ht)⟩

theorem Replays.unmoved (h : Replays c files fit repository first s s₀)
    (hu : Unmoved c files fit s.env e') :
    Replays c files fit repository first { s with env := e' } s₀ where
  unchanged := h.unchanged
  options := h.options
  pins := h.pins
  resolved := h.resolved
  history := h.history
  fit := hu.still.fit h.fit
  stocked := h.stocked.of_held_eq hu.still.held
  asked request answer hm := h.asked request answer (hu.answered request answer hm)
  hosting := h.hosting.of_eq hu.still.files hu.handed hu.given rfl rfl

theorem Replays.withContext (h : Replays c files fit repository first s s₀) {f : Context → Context}
    (hr : (f s.context).resolved = (f s₀.context).resolved)
    (hh : (f s.context).history = (f s₀.context).history)
    (hn : (f s.context).newImports = s.context.newImports)
    (hi : (f s.context).injected = s.context.injected) :
    Replays c files fit repository first { s with context := f s.context }
      { s₀ with context := f s₀.context } :=
  ⟨h.unchanged, h.options, h.pins, hr, hh, h.fit, h.stocked, h.asked, h.hosting.of_eq rfl rfl rfl hn hi⟩

/-- What the traced pass has put into its context for the host does not matter. -/
theorem Replays.of_contexts (h : Replays c files fit repository first s s₀) {context : Context}
    (hr : context.resolved = s₀.context.resolved) (hh : context.history = s₀.context.history) :
    Replays c files fit repository first s { s₀ with context := context } :=
  ⟨h.unchanged, h.options, h.pins, h.resolved.trans hr.symm, h.history.trans hh.symm, h.fit,
    h.stocked, h.asked, h.hosting⟩

theorem Replays.hit (h : Replays c files fit repository first s s₀) {key text : String}
    (hk : c.held s.env.env key = .ok (some (.text text))) :
    Replays c files fit repository first s
      { s₀ with env := { s₀.env with served := (key, text) :: s₀.env.served } } :=
  ⟨h.unchanged, h.options, h.pins, h.resolved, h.history, h.fit, h.stocked.hit hk,
    h.asked.mono fun _ => List.mem_cons_of_mem _, h.hosting⟩

variable (hc : Lasting c files fit)
include hc

theorem Stocked.store (h : Stocked c repository start env served) {key text : String}
    (hfit : fit env) (hk : repository key = .ok (some text)) :
    Stocked c repository start (c.store key text env).2 ((key, text) :: served) where
  agrees := hc.agrees_store hfit h.agrees hk
  keeps other text' ho := hc.keeps_store hfit h.agrees hk other text' (h.keeps other text' ho)
  served := List.forall_mem_cons.mpr ⟨hc.held_store_self hfit, fun entry he =>
    hc.keeps_store hfit h.agrees hk _ _ (h.served entry he)⟩

theorem Stocked.missing_start (h : Stocked c repository start env served) {key : String}
    (hk : c.held env key = .ok none) : c.held start key = .ok none := by
  obtain ⟨o, ho⟩ := hc.cached key start
  cases o with
  | none => exact ho
  | some text => cases (h.keeps key text ho).symm.trans hk

theorem Replays.asked_answered (h : Replays c files fit repository first s s₀) {request : Request}
    {answer : Answer} (hk : c.held s.env.env request.key = .ok none)
    (hs : ∀ entry ∈ s₀.env.served, entry ∈ served')
    (hnew : ∀ text, repository request.key = .ok (some text) → (request.key, text) ∈ served') :
    Asked c repository first.env (.answered request answer :: s.env.log) served' := by
  intro request' answer' hm
  rcases List.mem_cons.mp hm with he | hm
  · cases he
    exact ⟨h.stocked.missing_start hc hk, hnew⟩
  · exact h.asked.mono hs request' answer' hm

theorem Replays.store (h : Replays c files fit repository first s s₀) {key text : String}
    (hk : repository key = .ok (some text)) :
    Replays c files fit repository first
      { s with env := ⟨(c.store key text s.env.env).2, s.env.log⟩ }
      { s₀ with env := { s₀.env with served := (key, text) :: s₀.env.served } } where
  unchanged := h.unchanged
  options := h.options
  pins := h.pins
  resolved := h.resolved
  history := h.history
  fit := hc.fit_store _ _ _ h.fit
  stocked := h.stocked.store hc h.fit hk
  asked := h.asked.mono fun _ => List.mem_cons_of_mem _
  hosting := h.hosting.of_eq (hc.files_store ..) rfl rfl rfl rfl

section Answers

variable {request : Request} {answer : Answer} {s' : Scene (Watched ε)}
  (hk : c.held s.env.env request.key = .ok none)
  (ha : (adding c files fit repository).watched.answers request s answer s')
include hk ha

theorem Replays.missed (h : Replays c files fit repository first s s₀)
    (hnone : ∀ text, answer ≠ .ok (some text)) : Replays c files fit repository first s' s₀ := by
  obtain ⟨⟨hserved, hm⟩, hlog⟩ := ha
  have hcontext : s'.context = s.context := hm.context
  have hasked : Asked c repository first.env s'.env.log s₀.env.served := by
    rw [hlog]
    exact h.asked_answered hc hk (fun _ => id) fun text ht => absurd (hserved.trans ht) (hnone text)
  exact {
    unchanged := hm.options.trans h.unchanged
    options := hm.options.trans h.options
    pins := hm.pins.trans h.pins
    resolved := hcontext ▸ h.resolved
    history := hcontext ▸ h.history
    fit := hm.fit h.fit
    stocked := h.stocked.meantime hm rfl
    asked := hasked
    hosting := h.hosting.meantime hm hlog }

theorem Replays.found (h : Replays c files fit repository first s s₀) {text : String}
    (hfound : answer = .ok (some text)) :
    Replays c files fit repository first
      { s' with env := ⟨(c.store request.key text s'.env.env).2, s'.env.log⟩ }
      { s₀ with env := { s₀.env with served := (request.key, text) :: s₀.env.served } } := by
  obtain ⟨⟨hserved, hm⟩, hlog⟩ := ha
  have hserved : repository request.key = .ok (some text) := hserved.symm.trans hfound
  have hcontext : s'.context = s.context := hm.context
  have hfit : fit s'.env.env := hm.fit h.fit
  have hasked : Asked c repository first.env s'.env.log ((request.key, text) :: s₀.env.served) := by
    rw [hlog]
    refine h.asked_answered hc hk (fun _ => List.mem_cons_of_mem _) fun text' ht => ?_
    cases hserved.symm.trans ht
    exact List.mem_cons_self ..
  exact {
    unchanged := hm.options.trans h.unchanged
    options := hm.options.trans h.options
    pins := hm.pins.trans h.pins
    resolved := hcontext ▸ h.resolved
    history := hcontext ▸ h.history
    fit := hc.fit_store _ _ _ hfit
    stocked := (h.stocked.meantime hm rfl).store hc hfit hserved
    asked := hasked
    hosting := (h.hosting.meantime hm hlog).of_eq (hc.files_store ..) rfl rfl rfl rfl }

end Answers

end Replaying

/-! ## The laws -/

/-- A pass from the scene `first` beside the same pass traced. -/
def again (c : Collaborators ε) (files : ε → MemoryHost) (fit : ε → Prop) (repository : Repository)
    (first : Scene ε) : Correspondence (Watched ε) Trace where
  repository := repository
  regime := (adding c files fit repository).watched
  rel := Replays c files fit repository first

section Laws

variable {first : Scene ε} {env : ε} {s : Scene (Watched ε)} {s₀ : Scene Trace}

@[simp] theorem afterReport_tracing (options : Options) (u : Update) (t : Trace) :
    (tracing c env).afterReport options u t = t := by
  unfold Collaborators.afterReport
  split <;> rfl

theorem Steady.pass_follows {f : ε → Except Fault Unit × ε} (hf : Steady c files fit f) :
    (Walk.act fun e : Watched ε => e.pass (f e.env)).Follows (again c files fit repository first) s
      (Walk.act fun t => ((f env).1, t)) s₀ fun _ => True :=
  .act (fun _ => hf.result ..) (fun hr => hr.unmoved (.of_still (hf.still _))) fun _ _ _ => trivial

variable (hc : Lasting c files fit)
include hc

theorem Lasting.onError_follows (message : String) :
    (Walk.act (c.watched.onError message)).Follows (again c files fit repository first) s
      (Walk.act ((tracing c env).onError message)) s₀ fun _ => True :=
  .act (fun _ => (hc.onError message).result ..)
    (fun hr => hr.unmoved (.failed ((hc.onError message).still _))) fun _ _ _ => trivial

theorem Lasting.retrieve_follows (package path : String) :
    (retrieve c.watched package path).Follows (again c files fit repository first) s
      (retrieve (tracing c env) package path) s₀ fun o => ∀ value, o = some value →
        Holds repository package path value := by
  let K := again c files fit repository first
  have hpins : ∀ {s s₀}, K.rel s s₀ → s.pins = s₀.pins := fun hr => hr.pins
  have cached : ∀ {s : Scene (Watched ε)} {s₀ : Scene Trace} (key : String), K.rel s s₀ →
      K.rel { s with env := (c.watched.cached key s.env).2 } s₀ := fun key hr =>
    hr.unmoved (.cached (hc.still_cached key _))
  refine Resolution.retrieve_follows hc.toCacheCalm.watched (hc.calm_tracing env) (fun _ _ => rfl) hpins
    (fun {s s₀} key text hr hk => ?_) (fun request hr _ => trivial)
    (fun {s s₀} request answer s' hr hk ha => ?_) package path
  · have hkept : c.held (c.cached key s.env.env).2 key = .ok (some (.text text)) :=
      ((hc.still_cached key s.env.env).held key).trans hk
    refine ⟨hr.stocked.agrees key text hk, ?_⟩
    unfold Collaborators.afterHit Collaborators.afterStore
    rw [afterReport_tracing]
    exact ((cached key hr).hit hkept).unmoved (.afterReport hc ..)
  · have hkept : c.held (c.watched.cached request.key s.env).2.env request.key = .ok none :=
      ((hc.still_cached request.key _).held _).trans hk
    refine ⟨ha.1.1, ?_⟩
    split
    · unfold Collaborators.afterStore
      rw [afterReport_tracing]
      exact ((cached request.key hr).found hc hkept ha rfl).unmoved (.afterReport hc ..)
    · next hnone => exact (cached request.key hr).missed hc hkept ha hnone

theorem Lasting.keep_follows {key text : String} (hk : repository key = .ok (some text)) :
    (keep c.watched key text).Follows (again c files fit repository first) s
      (keep (tracing c env) key text) s₀ fun _ => True := by
  refine .of_done (keep_of_calm hc.toCacheCalm.watched key text)
    (keep_of_calm (hc.calm_tracing env) key text) (fun hr => ?_) fun _ _ => trivial
  have hr : Replays c files fit repository first s s₀ := hr
  have hasked := hr.unmoved (.of_still (hc.still_isCached key _))
  obtain ⟨known, hknown⟩ := hc.isCached key s.env.env
  unfold Collaborators.afterKeep
  rw [show (c.watched.isCached key s.env).1 = .ok known from hknown]
  cases known with
  | true =>
    obtain ⟨text', hheld⟩ := hc.known key s.env.env hknown
    cases (hr.stocked.agrees key text' hheld).symm.trans hk
    have hkept : c.held (c.isCached key s.env.env).2 key = .ok (some (.text text)) :=
      ((hc.still_isCached key s.env.env).held key).trans hheld
    exact hasked.hit hkept
  | false => exact hasked.store hc hk

theorem Replays.handed_held (h : Replays c files fit repository first s s₀) {path text : String}
    (hheld : (files s.env.env).get? path = some text) :
    Replays c files fit repository first { s with env := (c.watched.hosted path s.env).2 }
      { s₀ with env := { s₀.env with handed := (path, text) :: s₀.env.handed } } := by
  have hstill := hc.still_hosted path s.env.env
  have hresult : (c.hosted path s.env.env).1 = .ok (some text) := hheld ▸ hc.hosted path s.env.env
  have hlog : (c.watched.hosted path s.env).2.log = .hosted path (.ok (some text)) :: s.env.log :=
    hresult ▸ rfl
  have hfiles : files (c.watched.hosted path s.env).2.env = files s.env.env := hstill.files
  exact {
    unchanged := h.unchanged
    options := h.options
    pins := h.pins
    resolved := h.resolved
    history := h.history
    fit := hstill.fit h.fit
    stocked := h.stocked.of_held_eq hstill.held
    asked := fun request answer hm => h.asked request answer
      ((List.mem_cons.mp hm).resolve_left fun he => nomatch he)
    hosting := {
      handed := by
        rw [hlog, ← h.hosting.handed]
        rfl
      furnished := fun hone => List.forall_mem_cons.mpr
        ⟨hfiles ▸ hheld, hfiles ▸ h.hosting.furnished hone.tail⟩
      idle := fun hall =>
        have hidle := h.hosting.idle hall.tail
        ⟨hfiles.trans hidle.files, hidle.given, hidle.newImports, hidle.injected⟩ } }

theorem Replays.handed_placed (h : Replays c files fit repository first s s₀) {path text : String}
    (hheld : (files s.env.env).get? path ≠ some text) :
    Replays c files fit repository first
      { s with
        env := (c.watched.host path text (c.watched.hosted path s.env).2).2
        context := s.context.inject path }
      { s₀ with
        env := { s₀.env with handed := (path, text) :: s₀.env.handed }
        context := s₀.context.inject path } := by
  have hstill := hc.still_hosted path s.env.env
  have hfiles : files (c.watched.host path text (c.watched.hosted path s.env).2).2.env =
      (files s.env.env).set path text :=
    (hc.files_host path text _ (hstill.fit h.fit)).trans (congrArg (·.set path text) hstill.files)
  have hheld' : ∀ key, c.held (c.watched.host path text (c.watched.hosted path s.env).2).2.env key =
      c.held s.env.env key := fun key => (hc.held_host path text _ key).trans (hstill.held key)
  exact {
    unchanged := h.unchanged
    options := h.options
    pins := h.pins
    resolved := h.resolved
    history := h.history
    fit := hc.fit_host _ _ _ (hstill.fit h.fit)
    stocked := h.stocked.of_held_eq hheld'
    asked := fun request answer hm => h.asked request answer
      ((List.mem_cons.mp ((List.mem_cons.mp hm).resolve_left fun he => nomatch he)).resolve_left
        fun he => nomatch he)
    hosting := {
      handed := congrArg ((path, text) :: ·) h.hosting.handed
      furnished := fun hone => hfiles ▸ (h.hosting.furnished hone.tail).set hone
      idle := fun hall => by
        have hidle := h.hosting.idle hall.tail
        have hthere : (files first.env).get? path = some text := hall _ (List.mem_cons_self ..)
        exact absurd (hidle.files ▸ hthere) hheld } }

theorem Lasting.inject_follows (path text : String) :
    (inject c.watched path text).Follows (again c files fit repository first) s
      (inject (tracing c env) path text) s₀ fun _ => True := by
  have htraced : inject (tracing c env) path text s₀ = .done (.ok ())
      { s₀ with
        env := { s₀.env with handed := (path, text) :: s₀.env.handed }
        context := s₀.context.inject path } := rfl
  by_cases hheld : (files s.env.env).get? path = some text
  · have hresult : (c.watched.hosted path s.env).1 = .ok (some text) :=
      hheld ▸ hc.hosted path s.env.env
    refine .of_done (inject_of_held hresult) htraced (fun hr => ?_) fun _ _ => trivial
    exact (hr.handed_held hc hheld).of_contexts rfl rfl
  · refine .of_done (inject_of_other (hc.hosted path s.env.env) hheld (hc.host ..)) htraced
      (fun hr => hr.handed_placed hc hheld) fun _ _ => trivial

end Laws

/-! ## Passes -/

/-- Marks and milestones are not about the host. -/
def Lasting.simulation (hc : Lasting c files fit) (hr : Coherent repository) (env : ε)
    (first : Scene ε) : Simulation c.watched (tracing c env) where
  toCorrespondence := again c files fit repository first
  options_eq h := h.options
  pins_eq h := h.pins
  resolved_eq h := h.resolved
  history_eq h := h.history
  marked key h := h.withContext (f := (Context.mark · key))
    (by simp only [Context.resolved_mark, h.resolved]) (by simp [h.history]) (by simp) (by simp)
  recorded m h := h.withContext (f := (Context.record · m)) h.resolved
    (congrArg (m :: ·) h.history) rfl rfl
  pinned _ h := ⟨h.unchanged, h.options, rfl, h.resolved, h.history, h.fit, h.stocked, h.asked,
    h.hosting.of_eq rfl rfl rfl rfl rfl⟩
  retrieved := hc.retrieve_follows
  reported u _ := (hc.onUpdate u).pass_follows
  injected := hc.inject_follows
  versioned pins := (hc.onVersions pins).pass_follows
  kept := by
    rintro s s₀ package directory text manifest named ⟨_, version, ⟨⟩, hserved⟩ hm hv
    exact hc.keep_follows (hr package version directory text manifest named hserved hm hv)
  failed := hc.onError_follows

theorem Replays.start {s : Scene ε} (hfit : fit s.env) (hs : Agrees c repository s.env) :
    Replays c files fit repository s { s.watched with context := {} }
      ⟨s.options, s.pins, {}, {}⟩ where
  unchanged := rfl
  options := rfl
  pins := rfl
  resolved := rfl
  history := rfl
  fit := hfit
  stocked := ⟨hs, fun _ _ => id, fun _ he => nomatch he⟩
  asked _ _ hm := nomatch hm
  hosting := ⟨rfl, fun _ _ he => (nomatch he), fun _ => ⟨rfl, rfl, rfl, rfl⟩⟩

def traced (c : Collaborators ε) (repository : Repository) (source : String) (parent : Parent)
    (budget : Budget) (s : Scene ε) : Except Fault Unit × Scene Trace :=
  (pass (tracing c s.env) source parent budget ⟨s.options, s.pins, {}, {}⟩).outcome repository

/-- The traced pass is the same for all scenes with the same options and pins. -/
theorem Lasting.traced_eq (hc : Lasting c files fit) {s s' : Scene ε} (ho : s'.options = s.options)
    (hp : s'.pins = s.pins) (source : String) (parent : Parent) (budget : Budget) :
    traced c repository source parent budget s' = traced c repository source parent budget s := by
  have htracing : tracing c s'.env = tracing c s.env := by
    unfold tracing
    congr <;> funext a t <;> congr 1
    · exact (hc.onUpdate a).result ..
    · exact (hc.onVersions a).result ..
    · exact (hc.onError a).result ..
  unfold traced
  rw [ho, hp, htracing]

theorem Lasting.pass_replays (hc : Lasting c files fit) (hr : Coherent repository) (source : String)
    (parent : Parent) (budget : Budget) {s : Scene ε} (hfit : fit s.env)
    (hs : Agrees c repository s.env) {play : Play ε}
    (hp : play.Follows (adding c files fit repository)) {n : Nat} {result : Except Fault Unit}
    {s' : Scene (Watched ε)}
    (he : (pass c.watched source parent budget s.watched).after play.watched n = .done result s') :
    let ended := traced c repository source parent budget s
    result = ended.1 ∧ Replays c files fit repository s s' ended.2 := by
  intro ended
  let blank : Scene Trace := ⟨s.options, s.pins, {}, {}⟩
  have hstart : Replays c files fit repository s { s.watched with context := {} }
    { blank with context := {} } := .start hfit hs
  have hends := ((hc.simulation hr s.env s).pass source parent budget hstart).after hp.watched n
  rw [he] at hends
  obtain ⟨s₀', hlone, hrel⟩ := hends
  have hended : ended = (result, s₀') := hlone
  rw [hended]
  exact ⟨rfl, hrel⟩

/-- A pass that ends without a fault and leaves the pins as they were, and hands the host one text for
each path only, is made again, with a cache that has kept what it had. Then the pass ends without a fault
again, gives the host nothing and says so, and asks for nothing that there is. -/
theorem pass_repeated (hc : Lasting c files fit) (hr : Coherent repository) (source : String)
    (parent : Parent) (budget : Budget) (s : Scene ε) (hfit : fit s.env)
    (hs : Agrees c repository s.env) (play : Play ε)
    (hp : play.Follows (adding c files fit repository)) (n : Nat) (s₁ : Scene (Watched ε))
    (hend : (pass c.watched source parent budget s.watched).after play.watched n = .done (.ok ()) s₁)
    (hpins : s₁.pins = s.pins) (hone : Unanimous (handed s₁.env.log)) (s₂ : Scene ε)
    (hm : Meantime c files fit repository s₁.unwatched s₂) (play' : Play ε)
    (hp' : play'.Follows (adding c files fit repository)) :
    ∃ m s₃, (pass c.watched source parent budget s₂.watched).after play'.watched m =
        .done (.ok ()) s₃ ∧
      Idle files s₂.env s₃ ∧
      ∀ request answer, .answered request answer ∈ s₃.env.log →
        ∀ text, repository request.key ≠ .ok (some text) := by
  -- Both passes end as the pass that is traced, which does not depend on the cache or the host.
  obtain ⟨hresult, hfirst⟩ := hc.pass_replays hr source parent budget hfit hs hp hend
  obtain ⟨m, result, s₃, hend'⟩ := Step.exists_after_eq_done
    (pass c.watched source parent budget s₂.watched) play'.watched
  have hfit₂ : fit s₂.env := hm.fit hfirst.fit
  have hs₂ : Agrees c repository s₂.env := hm.agrees hfirst.stocked.agrees
  have hsame : traced c repository source parent budget s₂ =
      traced c repository source parent budget s :=
    hc.traced_eq (hm.options.trans hfirst.unchanged) (hm.pins.trans hpins) source parent budget
  obtain ⟨hresult', hsecond⟩ := hc.pass_replays hr source parent budget hfit₂ hs₂ hp' hend'
  rw [hsame] at hresult' hsecond
  obtain rfl : result = .ok () := hresult'.trans hresult.symm
  refine ⟨m, s₃, hend', hsecond.hosting.idle ?_, fun request answer ha text htext => ?_⟩
  · have hfiles : files s₂.env = files s₁.env.env := hm.files
    rw [hfiles]
    exact hfirst.hosting.furnished (hfirst.hosting.handed ▸ hone)
  -- What there is was served to the traced pass, so that the first pass has left it in the cache.
  · obtain ⟨hmissing, hserved⟩ := hsecond.asked request answer ha
    have hheld := hm.keeps _ _ (hfirst.stocked.served _ (hserved text htext))
    cases hheld.symm.trans hmissing

/-! ## A pass made twice -/

namespace Twice

/-- A package that names no version. -/
def declared : Repository := byName [
  ("package.json", "\x7b\"types\":\"index.d.ts\"\x7d"),
  ("index.d.ts", "require(\"./a\")"),
  ("a.d.ts", "declare const a: number")]

def start : Scene Workspace := atFirst {}

/-- A pass over an import of the package, alone with these files. -/
def after (s : Scene Workspace) : Step (Watched Workspace) Unit :=
  (pass inMemory.watched "require(\"p\")" (.directory "/") s.options.budget s.watched).after
    (Play.serving declared).watched 3

theorem serving_follows :
    (Play.serving declared).Follows
      (adding inMemory (·.memoryHost 0) (Equipped 0 0) declared) :=
  fun _ _ _ _ => ⟨rfl, rfl, rfl, rfl, id, rfl, fun _ _ => id, id⟩

/-- The first pass asks for three files and gives them to the host, the second does neither. -/
theorem second_idle :
    (after start).scene.context.injected =
      ["node_modules/p/package.json", "node_modules/p/index.d.ts", "node_modules/p/a.d.ts"] ∧
    ∃ m s₃, (pass inMemory.watched "require(\"p\")" (.directory "/") start.options.budget
        (after start).scene.unwatched.watched).after (Play.serving declared).watched m =
          .done (.ok ()) s₃ ∧
      Idle (·.memoryHost 0) (after start).scene.unwatched.env s₃ ∧
      ∀ request answer, .answered request answer ∈ s₃.env.log →
        ∀ text, declared request.key ≠ .ok (some text) := by
  have hrun : (after start).value? = some () ∧
      (after start).scene.pins.isEmpty = true ∧
      (after start).scene.context.injected =
        ["node_modules/p/package.json", "node_modules/p/index.d.ts", "node_modules/p/a.d.ts"] ∧
      Unanimous (handed (after start).scene.env.log) := by decide +kernel
  obtain ⟨hend, hnone, hinjected, hone⟩ := hrun
  have hpins : (after start).scene.pins = start.pins := Assoc.eq_empty_of_isEmpty hnone
  have hagain : ∀ s₁, after start = .done (.ok ()) s₁ → s₁.pins = start.pins →
      Unanimous (handed s₁.env.log) → ∃ m s₃, (pass inMemory.watched "require(\"p\")"
        (.directory "/") start.options.budget s₁.unwatched.watched).after
          (Play.serving declared).watched m = .done (.ok ()) s₃ ∧
        Idle (·.memoryHost 0) s₁.unwatched.env s₃ ∧
        ∀ request answer, .answered request answer ∈ s₃.env.log →
          ∀ text, declared request.key ≠ .ok (some text) := fun s₁ hend hpins hone => by
    refine pass_repeated lasting_memory (coherent_byName _) "require(\"p\")" (.directory "/")
      start.options.budget start ⟨by decide, by decide⟩ ?_ (Play.serving declared) serving_follows 3
      s₁ hend hpins hone s₁.unwatched ⟨rfl, rfl, rfl, id, rfl, fun _ _ => id, id⟩
      (Play.serving declared) serving_follows
    rintro key text ⟨⟩
  exact ⟨hinjected, hagain _ (Step.eq_done_of_value? hend) hpins hone⟩

end Twice

end DeclarationFetch.Resolution
