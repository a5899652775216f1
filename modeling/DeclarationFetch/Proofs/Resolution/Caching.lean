import DeclarationFetch.Proofs.Path.Reduction
import DeclarationFetch.Proofs.Resolution.Correspondence
import DeclarationFetch.Proofs.Resolution.Watch

/-! # Caches of a repository

What a cache has of a repository, and what becomes of a file that is asked for.

* `Agrees c repository env`: the cache has nothing but what the repository answers.
* `Coherent repository`: a manifest that names a version is answered at that version too.
* `CacheCalm c`: the cache answers with texts and does not fault. Then a file comes from the cache
  (`retrieve_of_held`), or one request is made for it (`retrieve_of_missing`).
* `keep c key text`: an entry is stored that the cache does not have yet.
* `retrieve_follows`: a file is retrieved as it is beside a cache that never has anything.
-/

namespace DeclarationFetch

def Update.aboutCache (u : Update) : Bool :=
  u.type = "LoadedFromCache" || u.type = "StoredToCache"

namespace Resolution

variable {ε : Type} {c : Collaborators ε} {repository : Repository}

/-! ## Contents -/

def Collaborators.held (c : Collaborators ε) (env : ε) (key : String) :
    Except Fault (Option Value) := (c.cached key env).1

/-- The cache has nothing but what the repository answers. -/
def Agrees (c : Collaborators ε) (repository : Repository) (env : ε) : Prop :=
  ∀ key text, c.held env key = .ok (some (.text text)) → repository key = .ok (some text)

/-- Under each key the cache has what it had before, or nothing any more. -/
def Fades (c : Collaborators ε) (env env' : ε) : Prop :=
  ∀ key, c.held env' key = c.held env key ∨ c.held env' key = .ok none

theorem Agrees.of_fades {env env' : ε} (h : Agrees c repository env) (hf : Fades c env env') :
    Agrees c repository env' := by
  intro key text hk
  rcases hf key with he | he
  · exact h key text (he ▸ hk)
  · cases he.symm.trans hk

/-- A manifest that names a version is answered at that version too. -/
def Coherent (repository : Repository) : Prop :=
  ∀ package version directory text manifest named,
    repository (Package.fileKey package version (Path.join [directory, "package.json"])) =
        .ok (some text) →
      Manifest.read package text = .ok manifest → manifest.version? = some named →
        repository (Package.fileKey package (some named) (Path.join [directory, "package.json"])) =
          .ok (some text)

/-- Files by name, whatever the package and the directory that they are asked for in. -/
def byName (files : List (String × String)) : Repository := fun key =>
  .ok (files.lookup (String.ofList ((Path.parts key.toList).getLastD [])))

theorem byName_fileKey (files : List (String × String)) (package : String) (version : Option String)
    (path : String) : byName files (Package.fileKey package version path) = byName files path := by
  have hparts : ∀ front : String, Path.parts (front ++ "/" ++ path).toList =
      Path.parts front.toList ++ Path.parts path.toList := fun front => by
    rw [String.toList_append, String.toList_append, List.append_assoc]
    exact Path.parts_append_slash ..
  unfold byName Package.fileKey
  rw [hparts, List.getLastD_eq_getLast?, List.getLastD_eq_getLast?, List.getLast?_append]
  cases hlast : (Path.parts path.toList).getLast? with
  | none => exact absurd (List.getLast?_eq_none_iff.mp hlast) (Path.parts_ne_nil _)
  | some last => rfl

theorem coherent_byName (files : List (String × String)) : Coherent (byName files) := by
  intro package version directory text manifest named h _ _
  rw [byName_fileKey] at h ⊢
  exact h

theorem held_memory {id : Nat} {host : HostRef} (w : Workspace) (key : String) :
    (Workspace.collaborators (.memory id) host).held w key =
      .ok (((w.shelf.get id).get? key).map .text) := rfl

/-! ## Retrievals -/

/-- The cache answers with texts, and neither it nor whoever is told about it faults. -/
structure CacheCalm (c : Collaborators ε) : Prop where
  cached : ∀ key env, ∃ o : Option String, (c.cached key env).1 = .ok (o.map .text)
  isCached : ∀ key env, ∃ known, (c.isCached key env).1 = .ok known
  store : ∀ key text env, (c.store key text env).1 = .ok ()
  told : ∀ u env, u.aboutCache = true → (c.onUpdate u env).1 = .ok ()

def Collaborators.afterReport (c : Collaborators ε) (options : Options) (u : Update) (env : ε) : ε :=
  if options.handlers.updates then (c.onUpdate u env).2 else env

def Collaborators.afterHit (c : Collaborators ε) (key : String) (s : Scene ε) : Scene ε :=
  { s with env := c.afterReport s.options (.loadedFromCache key) (c.cached key s.env).2 }

def Collaborators.afterStore (c : Collaborators ε) (key text : String) (s : Scene ε) : Scene ε :=
  { s with env := c.afterReport s.options (.storedToCache key) (c.store key text s.env).2 }

/-- What becomes of an answer to a request. -/
def received (c : Collaborators ε) (key : String) : Answer → Scene ε → Step ε (Option Value)
  | .error fault, s => .done (.error fault) s
  | .ok none, s => .done (.ok none) s
  | .ok (some text), s => .done (.ok (some (.text text))) (c.afterStore key text s)

theorem report_of_ok {u : Update} {s : Scene ε} (h : (c.onUpdate u s.env).1 = .ok ()) :
    report c u s = .done (.ok ()) { s with env := c.afterReport s.options u s.env } := by
  unfold report Collaborators.afterReport
  simp only [bind, Walk.bind, Walk.scene, Step.andThen]
  split
  · simp [Walk.act, h]
  · rfl

def keep (c : Collaborators ε) (key text : String) : Walk ε Unit := do
  if !(← Walk.act (c.isCached key)) then Walk.act (c.store key text)

def Collaborators.afterKeep (c : Collaborators ε) (key text : String) (env : ε) : ε :=
  match (c.isCached key env).1 with
  | .ok true => (c.isCached key env).2
  | _ => (c.store key text (c.isCached key env).2).2

section Retrievals

variable (hc : CacheCalm c) {s : Scene ε} {package path : String}
include hc

theorem retrieve_of_held {text : String}
    (h : c.held s.env (Package.fileKey package (s.pins.version? package) path) =
      .ok (some (.text text))) :
    let key := Package.fileKey package (s.pins.version? package) path
    retrieve c package path s = .done (.ok (some (.text text))) (c.afterHit key s) := by
  intro key
  unfold Collaborators.held at h
  have hreport := report_of_ok (s := { s with env := (c.cached key s.env).2 })
    (hc.told (.loadedFromCache key) (c.cached key s.env).2 rfl)
  simp only [retrieve, bind, Walk.bind, Walk.scene, Walk.act, Step.andThen, h]
  exact congrArg (Step.andThen _) hreport

theorem retrieve_of_missing
    (h : c.held s.env (Package.fileKey package (s.pins.version? package) path) = .ok none) :
    let key := Package.fileKey package (s.pins.version? package) path
    retrieve c package path s = .fetch ⟨package, path, s.pins.pin package⟩
      { s with env := (c.cached key s.env).2 } (received c key) := by
  intro key
  unfold Collaborators.held at h
  simp only [retrieve, bind, Walk.bind, Walk.scene, Walk.act, Walk.request, Step.andThen, h]
  congr
  funext answer s'
  rcases answer with fault | found
  · rfl
  cases found with
  | none => rfl
  | some text =>
    have hreport := report_of_ok (s := { s' with env := (c.store key text s'.env).2 })
      (hc.told (.storedToCache key) (c.store key text s'.env).2 rfl)
    show (Walk.act (c.store key text) s').andThen _ = _
    simp only [Walk.act, hc.store, Step.andThen]
    exact congrArg (Step.andThen _) hreport

theorem keep_of_calm (key text : String) :
    keep c key text s = .done (.ok ()) { s with env := c.afterKeep key text s.env } := by
  obtain ⟨known, hk⟩ := hc.isCached key s.env
  cases known <;>
    simp [keep, Collaborators.afterKeep, bind, Walk.bind, Walk.act, Step.andThen, hk, hc.store,
      pure, Walk.pure]

end Retrievals

theorem CacheCalm.watched (hc : CacheCalm c) : CacheCalm c.watched where
  cached key e := hc.cached key e.env
  isCached key e := hc.isCached key e.env
  store key text e := hc.store key text e.env
  told u e := hc.told u e.env

/-! ## Beside a cache that has nothing -/

/-- A file of the package is answered with this value, at some version. -/
def Holds (repository : Repository) (package path : String) (value : Value) : Prop :=
  ∃ text version, value = .text text ∧
    repository (Package.fileKey package version path) = .ok (some text)

theorem Holds.exists_text {package path : String} {value : Value}
    (h : Holds repository package path value) : ∃ text, value = .text text := by
  obtain ⟨text, _, hv, _⟩ := h
  exact ⟨text, hv⟩

section Beside

variable {ε₀ : Type} {K : Correspondence ε ε₀} {c₀ : Collaborators ε₀}

theorem outcome_retrieve (hc₀ : CacheCalm c₀) (hblank : ∀ key env, c₀.cached key env = (.ok none, env))
    {package path : String} {s : Scene ε₀} :
    (retrieve c₀ package path s).outcome repository =
      let key := Package.fileKey package (s.pins.version? package) path
      (received c₀ key (repository key) s).outcome repository := by
  have hheld : c₀.held s.env (Package.fileKey package (s.pins.version? package) path) = .ok none := by
    unfold Collaborators.held
    rw [hblank]
  rw [retrieve_of_missing hc₀ hheld, Step.outcome_fetch, Request.key_of_pins, hblank]

/-- What the cache has is what the other walk is answered, and so is what the cache does not have. -/
theorem retrieve_follows (hc : CacheCalm c) (hc₀ : CacheCalm c₀)
    (hblank : ∀ key env, c₀.cached key env = (.ok none, env))
    (hpins : ∀ {s s₀}, K.rel s s₀ → s.pins = s₀.pins)
    (hheld : ∀ {s s₀} key text, K.rel s s₀ → c.held s.env key = .ok (some (.text text)) →
      K.repository key = .ok (some text) ∧
        K.rel (c.afterHit key s) (c₀.afterStore key text s₀))
    (hasks : ∀ {s s₀} request, K.rel s s₀ → c.held s.env request.key = .ok none →
      K.regime.asks request { s with env := (c.cached request.key s.env).2 })
    (hanswers : ∀ {s s₀} request answer s', K.rel s s₀ → c.held s.env request.key = .ok none →
      K.regime.answers request { s with env := (c.cached request.key s.env).2 } answer s' →
        answer = K.repository request.key ∧ match answer with
          | .ok (some text) =>
              K.rel (c.afterStore request.key text s') (c₀.afterStore request.key text s₀)
          | _ => K.rel s' s₀)
    {s : Scene ε} {s₀ : Scene ε₀} (package path : String) :
    (retrieve c package path).Follows K s (retrieve c₀ package path) s₀ fun o => ∀ value,
      o = some value → Holds K.repository package path value := by
  refine .of_rel fun hr => ⟨fun _ => ?_⟩
  let request : Request := ⟨package, path, s.pins.pin package⟩
  have hrequest : Package.fileKey package (s.pins.version? package) path = request.key := rfl
  have hother : (retrieve c₀ package path s₀).outcome K.repository =
      (received c₀ request.key (K.repository request.key) s₀).outcome K.repository := by
    rw [outcome_retrieve hc₀ hblank, ← hpins hr]
    rfl
  have holds : ∀ text, K.repository request.key = .ok (some text) →
      Holds K.repository package path (.text text) := fun text h => ⟨text, _, rfl, h⟩
  obtain ⟨o, ho⟩ := hc.cached request.key s.env
  cases o with
  | some text =>
    obtain ⟨hserved, hrel⟩ := hheld request.key text hr ho
    rw [retrieve_of_held hc ho]
    refine ⟨_, hother.trans ?_, hrel, ?_⟩
    · rw [hserved]
      rfl
    · rintro _ ⟨⟩ _ ⟨⟩
      exact holds text hserved
  | none =>
    -- What the cache does not have is asked for, and the answer is what the other walk is given.
    rw [retrieve_of_missing hc ho, hrequest]
    refine ⟨hasks request hr ho, fun answer s' ha => ?_⟩
    obtain ⟨rfl, hrel⟩ := hanswers request answer s' hr ho ha
    rw [hother]
    match hserved : K.repository request.key, hrel with
    | .error fault, hrel => exact ⟨s₀, rfl, hrel, fun _ h => nomatch h⟩
    | .ok none, hrel =>
      refine ⟨s₀, rfl, hrel, ?_⟩
      rintro _ ⟨⟩ _ ⟨⟩
    | .ok (some text), hrel =>
      refine ⟨_, rfl, hrel, ?_⟩
      rintro _ ⟨⟩ _ ⟨⟩
      exact holds text hserved

end Beside

end Resolution

end DeclarationFetch
