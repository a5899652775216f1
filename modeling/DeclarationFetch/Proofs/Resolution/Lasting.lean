import DeclarationFetch.Proofs.Resolution.Caching

/-! # Caches and hosts that last

* `Keeps c env env'`: the cache still has what it had.
* `Still c files fit env env'`: the cache and the host are as they were.
* `Lasting c files fit`: what is put into the cache or the host stays there, and handlers leave both
  alone. `lasting_memory`: a cache and a host in memory are like that.
-/

namespace DeclarationFetch.Resolution

variable {ε : Type} {c : Collaborators ε} {files : ε → MemoryHost} {fit : ε → Prop}
  {repository : Repository}

/-! ## Laws -/

def Keeps (c : Collaborators ε) (env env' : ε) : Prop :=
  ∀ key text, c.held env key = .ok (some (.text text)) → c.held env' key = .ok (some (.text text))

structure Still (c : Collaborators ε) (files : ε → MemoryHost) (fit : ε → Prop) (env env' : ε) :
    Prop where
  fit : fit env → fit env'
  files : files env' = files env
  held : ∀ key, c.held env' key = c.held env key

/-- A handler with one result, which leaves the cache and the files of the host alone. -/
structure Steady (c : Collaborators ε) (files : ε → MemoryHost) (fit : ε → Prop)
    (f : ε → Except Fault Unit × ε) : Prop where
  result : ∀ env env', (f env).1 = (f env').1
  still : ∀ env, Still c files fit env (f env).2

/-- What is put into the cache or into the host, where these are fit for it, stays there. -/
structure Lasting (c : Collaborators ε) (files : ε → MemoryHost) (fit : ε → Prop) : Prop
    extends CacheCalm c where
  still_cached : ∀ key env, Still c files fit env (c.cached key env).2
  still_isCached : ∀ key env, Still c files fit env (c.isCached key env).2
  known : ∀ key env, (c.isCached key env).1 = .ok true →
    ∃ text, c.held env key = .ok (some (.text text))
  fit_store : ∀ key text env, fit env → fit (c.store key text env).2
  files_store : ∀ key text env, files (c.store key text env).2 = files env
  held_store : ∀ key text env other, fit env → c.held (c.store key text env).2 other =
    if other = key then .ok (some (.text text)) else c.held env other
  hosted : ∀ path env, (c.hosted path env).1 = .ok ((files env).get? path)
  still_hosted : ∀ path env, Still c files fit env (c.hosted path env).2
  host : ∀ path text env, (c.host path text env).1 = .ok ()
  fit_host : ∀ path text env, fit env → fit (c.host path text env).2
  files_host : ∀ path text env, fit env → files (c.host path text env).2 = (files env).set path text
  held_host : ∀ path text env key, c.held (c.host path text env).2 key = c.held env key
  onUpdate : ∀ u, Steady c files fit (c.onUpdate u)
  onVersions : ∀ pins, Steady c files fit (c.onVersions pins)
  onError : ∀ message, Steady c files fit (c.onError message)

theorem Still.refl {env : ε} : Still c files fit env env := ⟨id, rfl, fun _ => rfl⟩

theorem Lasting.still_afterReport (hc : Lasting c files fit) (options : Options) (u : Update)
    (env : ε) : Still c files fit env (c.afterReport options u env) := by
  unfold Collaborators.afterReport
  split
  · exact (hc.onUpdate u).still env
  · exact .refl

section Store

variable (hc : Lasting c files fit) {key text : String} {env : ε} (hfit : fit env)
  (ha : Agrees c repository env) (hk : repository key = .ok (some text))
include hc hfit

theorem Lasting.held_store_self : c.held (c.store key text env).2 key = .ok (some (.text text)) := by
  rw [hc.held_store key text env key hfit, if_pos rfl]

include ha hk

theorem Lasting.agrees_store : Agrees c repository (c.store key text env).2 := by
  intro other text' ho
  rw [hc.held_store key text env other hfit] at ho
  split at ho
  · next he =>
    cases ho
    exact he ▸ hk
  · exact ha other text' ho

/-- An entry is not replaced by another text, since both agree with the repository. -/
theorem Lasting.keeps_store : Keeps c env (c.store key text env).2 := by
  intro other text' ho
  rw [hc.held_store key text env other hfit]
  split
  · next he =>
    have hserved : repository key = .ok (some text') := he ▸ ha other text' ho
    cases hserved.symm.trans hk
    rfl
  · exact ho

end Store

/-! ## Workspaces -/

structure Equipped (id hostId : Nat) (w : Workspace) : Prop where
  cache : id < w.shelf.caches.length
  host : hostId < w.hosts.length

section Memory

variable {id hostId : Nat} {w w' : Workspace}

theorem still_memory (hs : w'.shelf = w.shelf) (hh : w'.hosts = w.hosts) :
    Still (Workspace.collaborators (.memory id) (.memory hostId)) (·.memoryHost hostId)
      (Equipped id hostId) w w' where
  fit he := ⟨hs ▸ he.cache, hh ▸ he.host⟩
  files := by
    unfold Workspace.memoryHost
    rw [hh]
  held key := by rw [held_memory, held_memory, hs]

theorem steady_tell (r : Report) :
    Steady (Workspace.collaborators (.memory id) (.memory hostId)) (·.memoryHost hostId)
      (Equipped id hostId) (Workspace.tell r) where
  result _ _ := rfl
  still _ := still_memory rfl rfl

theorem lasting_memory :
    Lasting (Workspace.collaborators (.memory id) (.memory hostId)) (·.memoryHost hostId)
      (Equipped id hostId) where
  cached _ _ := ⟨_, rfl⟩
  isCached _ _ := ⟨_, rfl⟩
  store _ _ _ := rfl
  told _ _ _ := rfl
  still_cached _ _ := still_memory rfl rfl
  still_isCached _ _ := still_memory rfl rfl
  known key w h := by
    cases hget : (w.shelf.get id).get? key with
    | none =>
      have hunknown : (Workspace.isCached (.memory id) key w).1 = .ok false :=
        congrArg (fun o : Option String => Except.ok (o.map Value.text).isSome) hget
      cases hunknown.symm.trans h
    | some text => exact ⟨text, by rw [held_memory, hget]; rfl⟩
  fit_store key text w he :=
    ⟨by simpa [Workspace.collaborators, Workspace.store] using he.cache, he.host⟩
  files_store _ _ _ := rfl
  held_store key text w other he := by
    have hstored : (Workspace.collaborators (.memory id) (.memory hostId)).held
        ((Workspace.collaborators (.memory id) (.memory hostId)).store key text w).2 other =
          .ok ((((w.shelf.set id ((w.shelf.get id).set key text)).get id).get? other).map .text) := rfl
    rw [hstored, CacheShelf.get_set, if_pos he.cache, MemoryCache.get?_set, held_memory]
    by_cases hk : key = other
    · rw [if_pos hk, if_pos hk.symm]
      rfl
    · rw [if_neg hk, if_neg fun h => hk h.symm]
  hosted _ _ := rfl
  still_hosted _ _ := still_memory rfl rfl
  host _ _ _ := rfl
  fit_host path text w he :=
    ⟨he.cache, by simpa [Workspace.collaborators, Workspace.putFile] using he.host⟩
  files_host _ _ _ he := Workspace.memoryHost_setMemoryHost he.host _
  held_host _ _ _ _ := rfl
  onUpdate u := steady_tell (.update u)
  onVersions pins := steady_tell (.versions pins)
  onError message := steady_tell (.error message)

end Memory

end DeclarationFetch.Resolution
