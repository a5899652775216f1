import DeclarationFetch.Proofs.Resolution.Simulation
import DeclarationFetch.Proofs.Resolution.Watch
import Mathlib.Data.List.Forall2

/-! # Caches that do not show

Passes with a cache that others fill and empty while a pass waits, beside the same passes with a cache
that never stores anything.

* `CacheApart c firm`: the cache and what is told about it leave all else alone, which `firm` is.
* `Runs`: passes one after another, among others who share the cache. `alone`: the same passes with a
  cache that never stores anything.
* `passes_transparent`: the passes end alike, and everything that they store agrees with the repository.
-/

namespace DeclarationFetch.Resolution

variable {ε η : Type} {c : Collaborators ε} {firm : ε → η} {repository : Repository}

/-! ## Caches apart -/

/-- What an action comes to is settled by the firm part, and nothing gets into the cache by it. -/
structure Firm {α : Type} (c : Collaborators ε) (firm : ε → η) (f : ε → Except Fault α × ε) :
    Prop where
  result : ∀ {env env'}, firm env = firm env' → (f env).1 = (f env').1
  after : ∀ {env env'}, firm env = firm env' → firm (f env).2 = firm (f env').2
  fades : ∀ env, Fades c env (f env).2

/-- The cache, and whoever is told about it, leave the firm part alone; what the host and the handlers
do comes from the firm part only. -/
structure CacheApart (c : Collaborators ε) (firm : ε → η) : Prop extends CacheCalm c where
  firm_cached : ∀ key env, firm (c.cached key env).2 = firm env
  fades_cached : ∀ key env, Fades c env (c.cached key env).2
  firm_isCached : ∀ key env, firm (c.isCached key env).2 = firm env
  fades_isCached : ∀ key env, Fades c env (c.isCached key env).2
  firm_store : ∀ key text env, firm (c.store key text env).2 = firm env
  held_store : ∀ key text env other, c.held (c.store key text env).2 other = c.held env other ∨
    c.held (c.store key text env).2 other = .ok none ∨
      other = key ∧ c.held (c.store key text env).2 other = .ok (some (.text text))
  firm_told : ∀ u env, u.aboutCache = true → firm (c.onUpdate u env).2 = firm env
  fades_told : ∀ u env, u.aboutCache = true → Fades c env (c.onUpdate u env).2
  hosted : ∀ path, Firm c firm (c.hosted path)
  host : ∀ path text, Firm c firm (c.host path text)
  onUpdate : ∀ u, u.aboutCache = false → Firm c firm (c.onUpdate u)
  onVersions : ∀ pins, Firm c firm (c.onVersions pins)
  onError : ∀ message, Firm c firm (c.onError message)

theorem CacheApart.agrees_store (hc : CacheApart c firm) {key text : String} {env : ε}
    (h : Agrees c repository env) (hk : repository key = .ok (some text)) :
    Agrees c repository (c.store key text env).2 := by
  intro other text' ho
  rcases hc.held_store key text env other with he | he | ⟨rfl, he⟩
  · exact h other text' (he ▸ ho)
  · cases he.symm.trans ho
  · cases he.symm.trans ho
    exact hk

theorem CacheApart.afterReport (hc : CacheApart c firm) (options : Options) {u : Update}
    (hu : u.aboutCache = true) (env : ε) :
    firm (c.afterReport options u env) = firm env ∧ Fades c env (c.afterReport options u env) := by
  unfold Collaborators.afterReport
  split
  · exact ⟨hc.firm_told u env hu, hc.fades_told u env hu⟩
  · exact ⟨rfl, fun _ => .inl rfl⟩

/-! ## With and without -/

/-- The same collaborators, with a cache that never stores anything. -/
def Collaborators.forgetful (c : Collaborators ε) : Collaborators ε :=
  { c with
    cached := fun _ env => (.ok none, env)
    isCached := fun _ env => (.ok false, env)
    store := fun _ _ env => (.ok (), env) }

theorem CacheApart.calm_forgetful (hc : CacheApart c firm) : CacheCalm c.forgetful where
  cached _ _ := ⟨none, rfl⟩
  isCached _ _ := ⟨false, rfl⟩
  store _ _ _ := rfl
  told := hc.told

/-- An environment with the entries that were stored, the latest first. -/
structure Noted (ε : Type) where
  env : ε
  stored : List (String × String)

def Noted.pass {α : Type} (e : Noted ε) (r : Except Fault α × ε) : Except Fault α × Noted ε :=
  (r.1, ⟨r.2, e.stored⟩)

def Collaborators.noted (c : Collaborators ε) : Collaborators (Noted ε) where
  cached key e := e.pass (c.cached key e.env)
  isCached key e := e.pass (c.isCached key e.env)
  store key text e := ((c.store key text e.env).1, ⟨(c.store key text e.env).2, (key, text) :: e.stored⟩)
  hosted path e := e.pass (c.hosted path e.env)
  host path text e := e.pass (c.host path text e.env)
  makeRoom path e := e.pass (c.makeRoom path e.env)
  onUpdate u e := e.pass (c.onUpdate u e.env)
  onVersions pins e := e.pass (c.onVersions pins e.env)
  onError message e := e.pass (c.onError message e.env)

theorem CacheApart.calm_noted (hc : CacheApart c firm) : CacheCalm c.noted where
  cached key e := hc.cached key e.env
  isCached key e := hc.isCached key e.env
  store key text e := hc.store key text e.env
  told u e := hc.told u e.env

def Sound (repository : Repository) (stored : List (String × String)) : Prop :=
  ∀ entry ∈ stored, repository entry.1 = .ok (some entry.2)

/-- Two scenes with nothing to tell them apart but the cache. -/
structure Alike (firm : ε → η) (s : Scene (Noted ε)) (s₀ : Scene ε) : Prop where
  options : s.options = s₀.options
  pins : s.pins = s₀.pins
  context : s.context = s₀.context
  env : firm s.env.env = firm s₀.env

structure InAgreement (c : Collaborators ε) (repository : Repository) (e : Noted ε) : Prop where
  agrees : Agrees c repository e.env
  sound : Sound repository e.stored

theorem InAgreement.of_fades {e : Noted ε} {env : ε} (h : InAgreement c repository e)
    (hf : Fades c e.env env) : InAgreement c repository ⟨env, e.stored⟩ :=
  ⟨h.agrees.of_fades hf, h.sound⟩

/-- While a pass waits, others do to the cache what they like, as long as it agrees in the end. -/
structure Meanwhile (c : Collaborators ε) (firm : ε → η) (repository : Repository)
    (s s' : Scene (Noted ε)) : Prop where
  options : s'.options = s.options
  pins : s'.pins = s.pins
  context : s'.context = s.context
  firm : firm s'.env.env = firm s.env.env
  stored : s'.env.stored = s.env.stored
  agrees : Agrees c repository s'.env.env

/-- Requests are made with a cache that agrees, and get the answers of the repository. -/
def sharing (c : Collaborators ε) (firm : ε → η) (repository : Repository) : Regime (Noted ε) where
  asks _ s := InAgreement c repository s.env
  answers request s answer s' := answer = repository request.key ∧ Meanwhile c firm repository s s'
  valid _ := True
  since _ _ := True
  refl _ := trivial
  trans _ _ := trivial
  valid_of_since _ _ := trivial

theorem Meanwhile.inAgreement {s s' : Scene (Noted ε)} (h : Meanwhile c firm repository s s')
    (hs : InAgreement c repository s.env) : InAgreement c repository s'.env :=
  ⟨h.agrees, h.stored ▸ hs.sound⟩

theorem Meanwhile.alike {s s' : Scene (Noted ε)} {s₀ : Scene ε}
    (h : Meanwhile c firm repository s s') (hs : Alike firm s s₀) : Alike firm s' s₀ where
  options := h.options.trans hs.options
  pins := h.pins.trans hs.pins
  context := h.context.trans hs.context
  env := h.firm.trans hs.env

def beside (c : Collaborators ε) (firm : ε → η) (repository : Repository) :
    Correspondence (Noted ε) ε where
  repository := repository
  regime := sharing c firm repository
  rel s s₀ := Alike firm s s₀ ∧ InAgreement c repository s.env

section Laws

variable {s : Scene (Noted ε)} {s₀ : Scene ε}

theorem Alike.withEnv {e : Noted ε} {env : ε} (h : Alike firm s s₀) (he : firm e.env = firm env) :
    Alike firm { s with env := e } { s₀ with env := env } :=
  ⟨h.options, h.pins, h.context, he⟩

theorem Firm.follows {α : Type} {f : ε → Except Fault α × ε} (hf : Firm c firm f) :
    (Walk.act fun e : Noted ε => e.pass (f e.env)).Follows (beside c firm repository) s (Walk.act f)
      s₀ fun _ => True :=
  .act (fun hr => hf.result hr.1.env)
    (fun hr => ⟨hr.1.withEnv (hf.after hr.1.env), hr.2.of_fades (hf.fades _)⟩) fun _ _ _ => trivial

variable (hc : CacheApart c firm)
include hc

theorem CacheApart.inject_follows (path text : String) :
    (inject c.noted path text).Follows (beside c firm repository) s (inject c.forgetful path text) s₀
      fun _ => True := by
  refine .bind (hc.hosted path).follows fun held _ _ _ _ => .ite (fun _ => .pure trivial) fun _ => ?_
  refine .bind (hc.host path text).follows fun _ _ _ _ _ => .change (fun hr => ⟨?_, hr.2⟩) trivial
  exact ⟨hr.1.options, hr.1.pins, congrArg (Context.inject · path) hr.1.context, hr.1.env⟩

theorem CacheApart.inAgreement_store {e : Noted ε} (h : InAgreement c repository e)
    {key text : String} (hk : repository key = .ok (some text)) :
    InAgreement c repository ⟨(c.store key text e.env).2, (key, text) :: e.stored⟩ where
  agrees := hc.agrees_store h.agrees hk
  sound entry he := by
    rcases List.mem_cons.mp he with rfl | he
    · exact hk
    · exact h.sound entry he

theorem CacheApart.keep_follows {key text : String} (hk : repository key = .ok (some text)) :
    (keep c.noted key text).Follows (beside c firm repository) s (keep c.forgetful key text) s₀
      fun _ => True := by
  refine .of_done (keep_of_calm hc.calm_noted key text) (keep_of_calm hc.calm_forgetful key text)
    (fun hr => ?_) fun _ _ => trivial
  obtain ⟨known, hknown⟩ := hc.isCached key s.env.env
  have hknown : (c.noted.isCached key s.env).1 = .ok known := hknown
  have hleft : InAgreement c repository (c.noted.isCached key s.env).2 :=
    hr.2.of_fades (hc.fades_isCached key s.env.env)
  have hfirm : firm (c.isCached key s.env.env).2 = firm s₀.env :=
    (hc.firm_isCached key s.env.env).trans hr.1.env
  unfold Collaborators.afterKeep
  rw [hknown]
  cases known with
  | true => exact ⟨hr.1.withEnv hfirm, hleft⟩
  | false =>
    exact ⟨hr.1.withEnv ((hc.firm_store ..).trans hfirm), hc.inAgreement_store hleft hk⟩

theorem CacheApart.rel_told (options options' : Options) {u u' : Update} (hu : u.aboutCache = true)
    (hu' : u'.aboutCache = true) {e : Noted ε} {env : ε}
    (hr : (beside c firm repository).rel { s with env := e } { s₀ with env := env }) :
    (beside c firm repository).rel { s with env := c.noted.afterReport options u e }
      { s₀ with env := c.forgetful.afterReport options' u' env } := by
  have hnoted : c.noted.afterReport options u e = ⟨c.afterReport options u e.env, e.stored⟩ := by
    unfold Collaborators.afterReport
    split <;> rfl
  have htold := hc.afterReport options hu e.env
  have htold' : firm (c.forgetful.afterReport options' u' env) = firm env :=
    (hc.afterReport options' hu' env).1
  rw [hnoted]
  exact ⟨⟨hr.1.options, hr.1.pins, hr.1.context, htold.1.trans (hr.1.env.trans htold'.symm)⟩,
    hr.2.of_fades htold.2⟩

theorem CacheApart.retrieve_follows (package path : String) :
    (retrieve c.noted package path).Follows (beside c firm repository) s
      (retrieve c.forgetful package path) s₀ fun o => ∀ value, o = some value →
        Holds repository package path value := by
  let K := beside c firm repository
  have hpins : ∀ {s s₀}, K.rel s s₀ → s.pins = s₀.pins := fun hr => hr.1.pins
  have cached : ∀ {s : Scene (Noted ε)} {s₀ : Scene ε} (key : String), K.rel s s₀ →
      K.rel { s with env := (c.noted.cached key s.env).2 } s₀ := fun key hr =>
    ⟨hr.1.withEnv ((hc.firm_cached key _).trans hr.1.env), hr.2.of_fades (hc.fades_cached key _)⟩
  refine Resolution.retrieve_follows hc.calm_noted hc.calm_forgetful (fun _ _ => rfl) hpins
    (fun {s s₀} key text hr hk => ?_) (fun request hr _ => ?_)
    (fun {s s₀} request answer s' hr _ ha => ?_) package path
  · have hserved : repository key = .ok (some text) := hr.2.agrees key text hk
    exact ⟨hserved, hc.rel_told s.options s₀.options rfl rfl (cached key hr)⟩
  · exact (cached request.key hr).2
  · obtain ⟨rfl, hm⟩ := ha
    refine ⟨rfl, ?_⟩
    have hasked := cached request.key hr
    have hmet : K.rel s' s₀ := ⟨hm.alike hasked.1, hm.inAgreement hasked.2⟩
    split
    · next text hserved =>
      refine hc.rel_told s'.options s₀.options rfl rfl ⟨hmet.1.withEnv ?_, ?_⟩
      · exact (hc.firm_store ..).trans hmet.1.env
      · exact hc.inAgreement_store hmet.2 hserved
    · exact hmet

end Laws

def CacheApart.simulation (hc : CacheApart c firm) (hr : Coherent repository) :
    Simulation c.noted c.forgetful where
  toCorrespondence := beside c firm repository
  options_eq h := h.1.options
  pins_eq h := h.1.pins
  resolved_eq h := congrArg Context.resolved h.1.context
  history_eq h := congrArg Context.history h.1.context
  marked key h :=
    ⟨⟨h.1.options, h.1.pins, congrArg (Context.mark · key) h.1.context, h.1.env⟩, h.2⟩
  recorded m h :=
    ⟨⟨h.1.options, h.1.pins, congrArg (Context.record · m) h.1.context, h.1.env⟩, h.2⟩
  pinned _ h := ⟨⟨h.1.options, rfl, h.1.context, h.1.env⟩, h.2⟩
  retrieved := hc.retrieve_follows
  reported u hu := (hc.onUpdate u hu).follows
  injected := hc.inject_follows
  versioned pins := (hc.onVersions pins).follows
  kept := by
    rintro s s₀ package directory text manifest named ⟨_, version, ⟨⟩, hserved⟩ hm hv
    exact hc.keep_follows (hr package version directory text manifest named hserved hm hv)
  failed message := (hc.onError message).follows

/-! ## Passes one after another -/

structure Job where
  source : String
  parent : Parent
  budget : Budget

def Job.walk (j : Job) (c : Collaborators ε) : Walk ε Unit := pass c j.source j.parent j.budget

/-- Passes over several jobs, each with its result and its last scene. Others come in between, and
wherever a pass waits. -/
inductive Runs (c : Collaborators ε) (firm : ε → η) (repository : Repository) :
    List Job → Scene (Noted ε) → List (Except Fault Unit × Scene (Noted ε)) → Prop
  | nil {s : Scene (Noted ε)} : Runs c firm repository [] s []
  | cons {j : Job} {rest : List Job} {s s₁ s₂ : Scene (Noted ε)} {play : Play (Noted ε)} {n : Nat}
      {result : Except Fault Unit} {ends : List (Except Fault Unit × Scene (Noted ε))}
      (hm : Meanwhile c firm repository s s₁) (hp : play.Follows (sharing c firm repository))
      (he : (j.walk c.noted s₁).after play n = .done result s₂)
      (hr : Runs c firm repository rest s₂ ends) :
      Runs c firm repository (j :: rest) s ((result, s₂) :: ends)

/-- The same with a cache that never stores anything, alone with the repository. -/
def alone (c : Collaborators ε) (repository : Repository) :
    List Job → Scene ε → List (Except Fault Unit × Scene ε)
  | [], _ => []
  | j :: rest, s =>
      let ended := (j.walk c.forgetful s).outcome repository
      ended :: alone c repository rest ended.2

/-- One pass ends as it does alone, and leaves a cache that agrees. -/
theorem CacheApart.pass_alike (hc : CacheApart c firm) (hr : Coherent repository) {j : Job}
    {s s' : Scene (Noted ε)} {s₀ : Scene ε} {play : Play (Noted ε)} {n : Nat}
    {result : Except Fault Unit} (hs : (beside c firm repository).rel s s₀)
    (hp : play.Follows (sharing c firm repository))
    (he : (j.walk c.noted s).after play n = .done result s') :
    ∃ s₀', (j.walk c.forgetful s₀).outcome repository = (result, s₀') ∧
      (beside c firm repository).rel s' s₀' := by
  have hends := (hc.simulation hr).pass j.source j.parent j.budget
    ⟨⟨hs.1.options, hs.1.pins, rfl, hs.1.env⟩, hs.2⟩
  have hafter := hends.after hp n
  rw [show (pass c.noted j.source j.parent j.budget s).after play n = _ from he] at hafter
  exact hafter

def Scene.noted (s : Scene ε) : Scene (Noted ε) := s.withEnv ⟨s.env, []⟩

/-- Passes among others stay alike to the passes that are alone. -/
theorem CacheApart.runs_alike (hc : CacheApart c firm) (hr : Coherent repository) {jobs : List Job}
    {s : Scene ε} (hs : Agrees c repository s.env) {ends : List (Except Fault Unit × Scene (Noted ε))}
    (h : Runs c firm repository jobs s.noted ends) :
    List.Forall₂ (fun ended lone =>
      ended.1 = lone.1 ∧ Alike firm ended.2 lone.2 ∧ InAgreement c repository ended.2.env)
      ends (alone c repository jobs s) := by
  have hrel : (beside c firm repository).rel s.noted s :=
    ⟨⟨rfl, rfl, rfl, rfl⟩, hs, fun _ he => nomatch he⟩
  generalize s.noted = start at h hrel
  clear hs
  -- The scenes of the two series stay alike from one pass to the next.
  induction h generalizing s with
  | nil => exact .nil
  | cons hm hp he _ ih =>
    have hmet : (beside c firm repository).rel _ s := ⟨hm.alike hrel.1, hm.inAgreement hrel.2⟩
    obtain ⟨s₀', hlone, hend⟩ := hc.pass_alike hr hmet hp he
    rw [alone, hlone]
    exact .cons ⟨rfl, hend.1, hend.2⟩ (ih hend)

/-! ## Under watch -/

def Observation.aboutCache : Observation → Bool
  | .cached _ _ | .answered _ _ => true
  | _ => false

/-- What was observed of the host and the error handler, in order. -/
def outsideCache (log : List Observation) : List Observation := log.filter fun o => !o.aboutCache

@[simp] theorem outsideCache_cons_of_aboutCache {o : Observation} {log : List Observation}
    (ho : o.aboutCache = true) : outsideCache (o :: log) = outsideCache log :=
  List.filter_cons_of_neg (by simp [ho])

theorem outsideCache_cons_congr {log log' : List Observation} (o : Observation)
    (h : outsideCache log = outsideCache log') : outsideCache (o :: log) = outsideCache (o :: log') := by
  unfold outsideCache at h ⊢
  rw [List.filter_cons, List.filter_cons, h]

def watchedFirm (firm : ε → η) (e : Watched ε) : η × List Observation :=
  (firm e.env, outsideCache e.log)

theorem watchedFirm_eq {e e' : Watched ε} :
    watchedFirm firm e = watchedFirm firm e' ↔
      firm e.env = firm e'.env ∧ outsideCache e.log = outsideCache e'.log := Prod.mk.injEq .. ▸ Iff.rfl

section Watching

variable {α : Type} {f : ε → Except Fault α × ε}

theorem Firm.pass (hf : Firm c firm f) :
    Firm c.watched (watchedFirm firm) fun e => e.pass (f e.env) where
  result h := hf.result (watchedFirm_eq.mp h).1
  after h := watchedFirm_eq.mpr ⟨hf.after (watchedFirm_eq.mp h).1, (watchedFirm_eq.mp h).2⟩
  fades e := hf.fades e.env

/-- What is observed may tell how the action went. -/
theorem Firm.note (hf : Firm c firm f) (o : Except Fault α → Observation) :
    Firm c.watched (watchedFirm firm) fun e => e.note (f e.env) (o (f e.env).1) where
  result h := hf.result (watchedFirm_eq.mp h).1
  after {e e'} h := by
    obtain ⟨henv, hlog⟩ := watchedFirm_eq.mp h
    refine watchedFirm_eq.mpr ⟨hf.after henv, ?_⟩
    show outsideCache (o (f e.env).1 :: e.log) = outsideCache (o (f e'.env).1 :: e'.log)
    rw [hf.result henv]
    exact outsideCache_cons_congr _ hlog
  fades e := hf.fades e.env

end Watching

theorem CacheApart.watched (hc : CacheApart c firm) : CacheApart c.watched (watchedFirm firm) where
  toCacheCalm := hc.toCacheCalm.watched
  firm_cached key e := watchedFirm_eq.mpr ⟨hc.firm_cached key e.env, outsideCache_cons_of_aboutCache rfl⟩
  fades_cached key e := hc.fades_cached key e.env
  firm_isCached key e := watchedFirm_eq.mpr ⟨hc.firm_isCached key e.env, rfl⟩
  fades_isCached key e := hc.fades_isCached key e.env
  firm_store key text e := watchedFirm_eq.mpr ⟨hc.firm_store key text e.env, rfl⟩
  held_store key text e := hc.held_store key text e.env
  firm_told u e hu := watchedFirm_eq.mpr ⟨hc.firm_told u e.env hu, rfl⟩
  fades_told u e := hc.fades_told u e.env
  hosted path := (hc.hosted path).note (.hosted path)
  host path text := (hc.host path text).note fun _ => .placed path text
  onUpdate u hu := (hc.onUpdate u hu).pass
  onVersions pins := (hc.onVersions pins).pass
  onError message := (hc.onError message).note fun _ => .failed message

/-- However others fill and empty the cache, as long as it agrees with a coherent repository whenever a
pass goes on: each pass has the result that it has with a cache that never stores anything, and leaves the
same pins and the same context. The host and the error handler are handed the same in the same order. Every
entry that a pass stores agrees with the repository, and so does the cache. -/
theorem passes_transparent (hc : CacheApart c firm) (hr : Coherent repository) (jobs : List Job)
    (s : Scene ε) (hs : Agrees c repository s.env)
    (ends : List (Except Fault Unit × Scene (Noted (Watched ε))))
    (h : Runs c.watched (watchedFirm firm) repository jobs s.watched.noted ends) :
    List.Forall₂ (fun ended lone =>
      ended.1 = lone.1 ∧ Alike (watchedFirm firm) ended.2 lone.2 ∧
        InAgreement c.watched repository ended.2.env)
      ends (alone c.watched repository jobs s.watched) :=
  hc.watched.runs_alike hr (s := s.watched) hs h

/-! ## Workspaces -/

def reportsCache : Report → Bool
  | .update u => u.aboutCache
  | _ => false

/-- What is in a workspace apart from its caches in memory and the reports about caches. -/
def workspaceFirm (w : Workspace) : List MemoryHost × FileTree × List Report :=
  (w.hosts, w.tree, w.reports.filter fun r => !reportsCache r)

theorem workspaceFirm_eq {w w' : Workspace} : workspaceFirm w = workspaceFirm w' ↔
    w.hosts = w'.hosts ∧ w.tree = w'.tree ∧
      w.reports.filter (fun r => !reportsCache r) = w'.reports.filter fun r => !reportsCache r := by
  simp [workspaceFirm]

section Memory

variable {id : Nat} {host : HostRef}

/-- Whatever leaves the caches alone stores nothing. -/
theorem fades_of_shelf_eq {w w' : Workspace} (h : w'.shelf = w.shelf) :
    Fades (Workspace.collaborators (.memory id) host) w w' := fun key =>
  .inl (by rw [held_memory, held_memory, h])

theorem firm_tell (r : Report) :
    Firm (Workspace.collaborators (.memory id) host) workspaceFirm (Workspace.tell r) where
  result _ := rfl
  after h := by
    obtain ⟨hh, ht, hr⟩ := workspaceFirm_eq.mp h
    exact workspaceFirm_eq.mpr ⟨hh, ht, by simp only [Workspace.tell, List.filter_cons, hr]⟩
  fades _ := fades_of_shelf_eq rfl

theorem firm_hosted (path : String) :
    Firm (Workspace.collaborators (.memory id) host) workspaceFirm (Workspace.hosted host path) where
  result {w w'} h := by
    obtain ⟨hh, ht, _⟩ := workspaceFirm_eq.mp h
    cases host <;> simp only [Workspace.hosted, Workspace.memoryHost, hh, ht]
  after h := by cases host <;> exact h
  fades _ := fades_of_shelf_eq (by cases host <;> rfl)

theorem firm_putFile (path text : String) :
    Firm (Workspace.collaborators (.memory id) host) workspaceFirm
      (Workspace.putFile host path text) where
  result {w w'} h := by
    obtain ⟨_, ht, _⟩ := workspaceFirm_eq.mp h
    cases host <;> simp only [Workspace.putFile, ht]
  after {w w'} h := by
    obtain ⟨hh, ht, hr⟩ := workspaceFirm_eq.mp h
    cases host with
    | memory id' =>
      refine workspaceFirm_eq.mpr ⟨?_, ht, hr⟩
      simp only [Workspace.putFile, Workspace.hosts_notePlaced, Workspace.setMemoryHost,
        Workspace.memoryHost, hh]
    | directory h =>
      refine workspaceFirm_eq.mpr ⟨hh, ?_, hr⟩
      simp only [Workspace.putFile, Workspace.tree_notePlaced, ht]
  fades _ := fades_of_shelf_eq (by cases host <;> rfl)

theorem held_memory_store (key text other : String) (w : Workspace) :
    let c := Workspace.collaborators (.memory id) host
    c.held (c.store key text w).2 other = c.held w other ∨
      c.held (c.store key text w).2 other = .ok none ∨
        other = key ∧ c.held (c.store key text w).2 other = .ok (some (.text text)) := by
  intro c
  have hstored : c.held (c.store key text w).2 other =
      .ok ((((w.shelf.set id ((w.shelf.get id).set key text)).get id).get? other).map .text) := rfl
  rw [hstored, CacheShelf.get_set]
  split
  · rw [MemoryCache.get?_set]
    split
    · next he => exact .inr (.inr ⟨he.symm, rfl⟩)
    · exact .inl rfl
  · exact .inl rfl

theorem cacheApart_memory : CacheApart (Workspace.collaborators (.memory id) host) workspaceFirm where
  cached _ _ := ⟨_, rfl⟩
  isCached _ _ := ⟨_, rfl⟩
  store _ _ _ := rfl
  told _ _ _ := rfl
  firm_cached _ _ := rfl
  fades_cached _ _ := fades_of_shelf_eq rfl
  firm_isCached _ _ := rfl
  fades_isCached _ _ := fades_of_shelf_eq rfl
  firm_store _ _ _ := rfl
  held_store key text w other := held_memory_store key text other w
  firm_told u w hu := by
    exact workspaceFirm_eq.mpr ⟨rfl, rfl, List.filter_cons_of_neg (by simp [reportsCache, hu])⟩
  fades_told _ _ _ := fades_of_shelf_eq rfl
  hosted := firm_hosted
  host := firm_putFile
  onUpdate u _ := firm_tell (.update u)
  onVersions pins := firm_tell (.versions pins)
  onError message := firm_tell (.error message)

theorem held_memory_clear (w : Workspace) (key : String) :
    (Workspace.collaborators (.memory id) host).held (Workspace.clearCache (.memory id) w).2 key =
      .ok none := by
  have hcleared : (Workspace.collaborators (.memory id) host).held
      (Workspace.clearCache (.memory id) w).2 key =
        .ok ((((w.shelf.set id (w.shelf.get id).clear).get id).get? key).map .text) := rfl
  rw [hcleared, CacheShelf.get_set]
  split
  · rfl
  · next h =>
    have hnone : w.shelf.get id = {} := by
      unfold CacheShelf.get
      rw [List.getD_eq_getElem?_getD, List.getElem?_eq_none (by omega)]
      rfl
    rw [hnone]
    rfl

end Memory

/-! ## Two passes among others who clear the cache -/

namespace Cleared

def files : Repository := byName [
  ("package.json", "\x7b\"types\":\"index.d.ts\",\"version\":\"1.0.0\"\x7d"),
  ("index.d.ts", "declare const p: number")]

def cleared (s : Scene (Noted (Watched Workspace))) : Scene (Noted (Watched Workspace)) :=
  { s with env := { s.env with env := { s.env.env with
      env := (Workspace.clearCache (.memory 0) s.env.env.env).2 } } }

/-- Others clear the cache whenever a pass waits. -/
def play : Play (Noted (Watched Workspace)) :=
  { Play.serving files with env := fun _ _ s => (cleared s).env }

theorem meanwhile_cleared (s : Scene (Noted (Watched Workspace))) :
    Meanwhile inMemory.watched (watchedFirm workspaceFirm) files s (cleared s) where
  options := rfl
  pins := rfl
  context := rfl
  firm := rfl
  stored := rfl
  agrees key text h := by
    have hnone : inMemory.watched.held (cleared s).env.env key = .ok none :=
      @held_memory_clear 0 (.memory 0) s.env.env.env key
    cases hnone.symm.trans h

theorem play_follows :
    play.Follows (sharing inMemory.watched (watchedFirm workspaceFirm) files) :=
  fun _ _ s _ => ⟨rfl, meanwhile_cleared s⟩

def job : Job := ⟨"require(\"p\")", .directory "/", ({} : Options).budget⟩

/-- A pass over the job, with the cache cleared before it and whenever it waits. -/
def after (s : Scene (Noted (Watched Workspace))) : Step (Noted (Watched Workspace)) Unit :=
  (job.walk inMemory.watched.noted (cleared s)).after play 3

def start : Scene Workspace := atFirst {}

/-- Both passes store what the repository answers, and hand the host the same as without a cache. -/
theorem cleared_transparent :
    List.Forall₂ (fun ended lone => ended.1 = lone.1 ∧
        Alike (watchedFirm workspaceFirm) ended.2 lone.2 ∧
          InAgreement inMemory.watched files ended.2.env)
      [(.ok (), (after start.watched.noted).scene),
        (.ok (), (after (after start.watched.noted).scene).scene)]
      (alone inMemory.watched files [job, job] start.watched) ∧
    givenPaths (after start.watched.noted).scene.env.env.log =
      ["node_modules/p/index.d.ts", "node_modules/p/package.json"] := by
  have hrun : (after start.watched.noted).value? = some () ∧
      (after (after start.watched.noted).scene).value? = some () ∧
      givenPaths (after start.watched.noted).scene.env.env.log =
        ["node_modules/p/index.d.ts", "node_modules/p/package.json"] := by decide +kernel
  obtain ⟨hfirst, hsecond, hgiven⟩ := hrun
  refine ⟨?_, hgiven⟩
  refine passes_transparent cacheApart_memory (coherent_byName _) [job, job] start ?_ _ ?_
  · rintro key text ⟨⟩
  · refine .cons (meanwhile_cleared _) play_follows (Step.eq_done_of_value? hfirst) ?_
    exact .cons (meanwhile_cleared _) play_follows (Step.eq_done_of_value? hsecond) .nil

end Cleared

end DeclarationFetch.Resolution
