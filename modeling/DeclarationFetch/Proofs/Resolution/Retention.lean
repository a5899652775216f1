import DeclarationFetch.Proofs.Resolution.Watch

/-! # Hosts that keep their files

* `Retained fit has env env'`: the host has all the files that it had.
* `Retains c fit has`: whatever is done, the host keeps the files that it has, and it has what it was
  given. `retains_memory`: a host in memory does so, beside any cache.
-/

namespace DeclarationFetch.Resolution

variable {ε : Type} {c : Collaborators ε} {fit : ε → Prop} {has : String → ε → Prop}

/-- The host has a file wherever it had one, and can be given files if it could be. -/
structure Retained (fit : ε → Prop) (has : String → ε → Prop) (env env' : ε) : Prop where
  fit : fit env → fit env'
  has : ∀ path, has path env → has path env'

theorem Retained.refl (env : ε) : Retained fit has env env := ⟨id, fun _ => id⟩

theorem Retained.trans {env env' env'' : ε} (h : Retained fit has env env')
    (h' : Retained fit has env' env'') : Retained fit has env env'' :=
  ⟨fun hf => h'.fit (h.fit hf), fun path hp => h'.has path (h.has path hp)⟩

/-- The host keeps its files, `has` telling where it has one. Where the environment is `fit` it has a file
at each path at which it was given one. -/
structure Retains (c : Collaborators ε) (fit : ε → Prop) (has : String → ε → Prop) : Prop where
  present : ∀ {path text env}, (c.hosted path env).1 = .ok (some text) → has path (c.hosted path env).2
  placed : ∀ {path text env}, fit env → (c.host path text env).1 = .ok () →
    has path (c.host path text env).2
  cached : ∀ key env, Retained fit has env (c.cached key env).2
  isCached : ∀ key env, Retained fit has env (c.isCached key env).2
  store : ∀ key text env, Retained fit has env (c.store key text env).2
  hosted : ∀ path env, Retained fit has env (c.hosted path env).2
  host : ∀ path text env, Retained fit has env (c.host path text env).2
  makeRoom : ∀ path env, Retained fit has env (c.makeRoom path env).2
  onUpdate : ∀ u env, Retained fit has env (c.onUpdate u env).2
  onVersions : ∀ pins env, Retained fit has env (c.onVersions pins env).2
  onError : ∀ message env, Retained fit has env (c.onError message env).2

namespace Retains

variable (hc : Retains c fit has) {path text : String} {s s' : Scene ε} {result : Except Fault Unit}
include hc

theorem injected (h : Injected c path text s result s') : Retained fit has s.env s'.env := by
  cases h with
  | unreadable => exact hc.hosted path s.env
  | present => exact hc.hosted path s.env
  | refused => exact (hc.hosted path s.env).trans (hc.host path text _)
  | placed => exact (hc.hosted path s.env).trans (hc.host path text _)

theorem has_of_injected (hfit : fit s.env) (h : Injected c path text s result s')
    (hr : result = .ok ()) : has path s'.env := by
  cases h with
  | unreadable => cases hr
  | present h => exact hc.present h
  | refused => cases hr
  | placed _ hf => exact hc.placed ((hc.hosted path s.env).fit hfit) hf

omit hc in
theorem retained_watched {e e' : Watched ε} (h : Retained fit has e.env e'.env) :
    Retained (fun e : Watched ε => fit e.env) (fun path e => has path e.env) e e' := ⟨h.fit, h.has⟩

theorem watched : Retains c.watched (fun e => fit e.env) fun path e => has path e.env where
  present h := hc.present h
  placed hf h := hc.placed hf h
  cached key e := retained_watched (hc.cached key e.env)
  isCached key e := retained_watched (hc.isCached key e.env)
  store key text e := retained_watched (hc.store key text e.env)
  hosted path e := retained_watched (hc.hosted path e.env)
  host path text e := retained_watched (hc.host path text e.env)
  makeRoom path e := retained_watched (hc.makeRoom path e.env)
  onUpdate u e := retained_watched (hc.onUpdate u e.env)
  onVersions pins e := retained_watched (hc.onVersions pins e.env)
  onError message e := retained_watched (hc.onError message e.env)

end Retains

/-! ## Hosts in memory -/

section Memory

variable {id : Nat} {w w' : Workspace}

def HasFile (id : Nat) (path : String) (w : Workspace) : Prop :=
  ((w.memoryHost id).get? path).isSome

def HasHost (id : Nat) (w : Workspace) : Prop := id < w.hosts.length

theorem retained_of_hosts (h : w'.hosts = w.hosts) : Retained (HasHost id) (HasFile id) w w' where
  fit hid := by
    unfold HasHost at hid ⊢
    rwa [h]
  has path hp := by
    unfold HasFile Workspace.memoryHost at hp ⊢
    rwa [h]

theorem hosts_cached (cache : CacheRef) (key : String) (w : Workspace) :
    (Workspace.cached cache key w).2.hosts = w.hosts := by
  cases cache with
  | memory => rfl
  | disk cache =>
    show (w.onDisk (cache.get w.tree key)).2.hosts = w.hosts
    cases cache.get w.tree key <;> rfl

theorem hosts_store (cache : CacheRef) (key text : String) (w : Workspace) :
    (Workspace.store cache key text w).2.hosts = w.hosts := by
  cases cache <;> rfl

/-- A host in memory keeps its files, whichever cache there is. -/
theorem retains_memory (cache : CacheRef) (id : Nat) :
    Retains (Workspace.collaborators cache (.memory id)) (HasHost id) (HasFile id) where
  present {path text w} h := by
    have hget : (w.memoryHost id).get? path = some text := Except.ok.inj h
    exact Option.isSome_iff_exists.mpr ⟨text, hget⟩
  placed {path text w} hid _ := by
    show (((w.setMemoryHost id ((w.memoryHost id).set path text)).memoryHost id).get? path).isSome
    rw [Workspace.memoryHost_setMemoryHost hid, MemoryHost.get?_set, if_pos rfl]
    rfl
  cached key w := retained_of_hosts (hosts_cached cache key w)
  isCached key w := retained_of_hosts (hosts_cached cache key w)
  store key text w := retained_of_hosts (hosts_store cache key text w)
  hosted _ _ := retained_of_hosts rfl
  host path text w := by
    refine ⟨fun hid => ?_, fun other ho => ?_⟩
    · show id < (w.setMemoryHost id _).hosts.length
      rwa [Workspace.length_hosts_setMemoryHost]
    · show (((w.setMemoryHost id ((w.memoryHost id).set path text)).memoryHost id).get? other).isSome
      by_cases hid : id < w.hosts.length
      · rw [Workspace.memoryHost_setMemoryHost hid, MemoryHost.get?_set]
        split
        · rfl
        · exact ho
      · -- a host that is not there has no files, and none can be given to it
        have hnone : w.setMemoryHost id ((w.memoryHost id).set path text) = w := by
          simp [Workspace.setMemoryHost, List.set_eq_of_length_le (Nat.not_lt.mp hid)]
        rwa [hnone]
  makeRoom _ _ := retained_of_hosts rfl
  onUpdate _ _ := retained_of_hosts rfl
  onVersions _ _ := retained_of_hosts rfl
  onError _ _ := retained_of_hosts rfl

end Memory

end DeclarationFetch.Resolution
