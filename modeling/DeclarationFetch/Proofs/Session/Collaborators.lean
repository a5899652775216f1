import DeclarationFetch.Proofs.Session.Deeds

/-! # Collaborators

Which host and which cache a session has, from its beginning on.

* `World.Furnished p w host cache registry`: what a session that is made from the plan `p` in the world `w` gets.
  A host in memory that holds nothing counts as none, and so does an empty cache in memory where the cache is
  to be shared.
* `create_furnished`: whatever happens afterwards, the session keeps its host and its cache, and all that its
  tasks give to a host they give to that one.
* `Lending`: an empty host is passed over for a new one, and so is an empty cache that is to be shared.
-/

namespace DeclarationFetch

def Workspace.BareHost (w : Workspace) (host : HostRef) : Prop :=
  ∃ k, host = .memory k ∧ (w.memoryHost k).isEmpty = true

def Workspace.BareCache (w : Workspace) (cache : CacheRef) : Prop :=
  ∃ k, cache = .memory k ∧ (w.shelf.get k).isEmpty = true

/-- Sharing is asked for, and there is a registry. -/
def World.Plan.Shares (p : World.Plan) : Prop := p.options.shareCache = true ∧ p.useRegistry = true

def CacheRegistry.default? (r : CacheRegistry) : Option CacheRef := r.names.get? defaultName

structure World.Furnished (p : World.Plan) (w : World) (host : HostRef) (cache : CacheRef)
    (registry : CacheRegistry) : Prop where
  givenHost : ∀ given, p.host = some given → ¬ w.workspace.BareHost given → host = given
  newHost : (∀ given, p.host = some given → w.workspace.BareHost given) →
    host = .memory w.workspace.hosts.length
  ownCache : ¬ p.Shares → ∀ given, p.cache = some given → cache = given
  newCache : ¬ p.Shares → p.cache = none → cache = .memory w.workspace.shelf.caches.length
  sharedCache : p.Shares → ∀ shared, w.registry.default? = some shared → cache = shared
  givenCache : p.Shares → w.registry.default? = none →
    ∀ given, p.cache = some given → ¬ w.workspace.BareCache given → cache = given
  bareCache : p.Shares → w.registry.default? = none →
    (∀ given, p.cache = some given → w.workspace.BareCache given) →
      cache = .memory w.workspace.shelf.caches.length
  registered : p.Shares → registry.default? = some cache
  registry : ¬ p.Shares → registry = w.registry

namespace World

variable {p : Plan} {w : World}

/-! ## Hosts -/

theorem isGiven_iff {w : Workspace} {host : HostRef} : isGiven w host = true ↔ ¬ w.BareHost host := by
  cases host with
  | memory k =>
    unfold isGiven
    rw [Bool.not_eq_true', ← Bool.not_eq_true]
    refine not_congr ⟨fun h => ⟨k, rfl, h⟩, ?_⟩
    rintro ⟨k', he, h⟩
    cases he
    exact h
  | directory d =>
    refine iff_of_true rfl ?_
    rintro ⟨_, he, _⟩
    cases he

theorem attachHost_given {host : HostRef} (h : p.host = some host) (hb : ¬ w.workspace.BareHost host) :
    (attachHost p w).1 = host := by
  unfold attachHost
  rw [h, Option.filter_some, if_pos (isGiven_iff.mpr hb)]

theorem attachHost_new (h : ∀ given, p.host = some given → w.workspace.BareHost given) :
    (attachHost p w).1 = .memory w.workspace.hosts.length := by
  have hnone : p.host.filter (isGiven w.workspace) = none := by
    rw [Option.filter_eq_none_iff]
    intro given hg ht
    exact isGiven_iff.mp ht (h given hg)
  unfold attachHost
  rw [hnone]
  rfl

/-! ## Caches -/

theorem isFilled_iff {w : Workspace} {cache : CacheRef} : isFilled w cache = true ↔ ¬ w.BareCache cache := by
  cases cache with
  | memory k =>
    unfold isFilled
    rw [Bool.not_eq_true', ← Bool.not_eq_true]
    refine not_congr ⟨fun h => ⟨k, rfl, h⟩, ?_⟩
    rintro ⟨k', he, h⟩
    cases he
    exact h
  | disk d =>
    refine iff_of_true rfl ?_
    rintro ⟨_, he, _⟩
    cases he

theorem cacheToShare_given {w : Workspace} {cache : CacheRef} (hb : ¬ w.BareCache cache) :
    cacheToShare (some cache) w = (cache, w) := by
  unfold cacheToShare
  rw [Option.filter_some, if_pos (isFilled_iff.mpr hb)]

theorem cacheToShare_new {w : Workspace} {cache : Option CacheRef}
    (h : ∀ given, cache = some given → w.BareCache given) : cacheToShare cache w = w.addMemoryCache {} := by
  have hnone : cache.filter (isFilled w) = none := by
    rw [Option.filter_eq_none_iff]
    intro given hg ht
    exact isFilled_iff.mp ht (h given hg)
  unfold cacheToShare
  rw [hnone]

theorem hosts_cacheToShare (cache : Option CacheRef) (w : Workspace) :
    (cacheToShare cache w).2.hosts = w.hosts := by
  unfold cacheToShare
  split <;> rfl

theorem attachCache_own (h : ¬ p.Shares) {cache : CacheRef} (hc : p.cache = some cache) :
    attachCache p w = (cache, w) := by
  unfold attachCache
  rw [if_neg fun hs => h (Bool.and_eq_true_iff.mp hs), hc]

theorem attachCache_new (h : ¬ p.Shares) (hc : p.cache = none) :
    attachCache p w = (.memory w.workspace.shelf.caches.length,
      { w with workspace := (w.workspace.addMemoryCache {}).2 }) := by
  unfold attachCache
  rw [if_neg fun hs => h (Bool.and_eq_true_iff.mp hs), hc]
  rfl

theorem attachCache_shared (h : p.Shares) {shared : CacheRef} (hs : w.registry.default? = some shared) :
    attachCache p w = (shared, w) := by
  have hfound : w.registry.names.get? CacheRegistry.defaultName = some shared := hs
  unfold attachCache CacheRegistry.getOrCreate
  rw [if_pos (Bool.and_eq_true_iff.mpr h), hfound]

theorem attachCache_registers (h : p.Shares) (hn : w.registry.default? = none) :
    attachCache p w = ((cacheToShare p.cache w.workspace).1,
      { w with
        registry := w.registry.register CacheRegistry.defaultName (cacheToShare p.cache w.workspace).1
        workspace := (cacheToShare p.cache w.workspace).2 }) := by
  have hnone : w.registry.names.get? CacheRegistry.defaultName = none := hn
  unfold attachCache CacheRegistry.getOrCreate
  rw [if_pos (Bool.and_eq_true_iff.mpr h), hnone]

theorem hosts_attachCache (p : Plan) (w : World) :
    (attachCache p w).2.workspace.hosts = w.workspace.hosts := by
  by_cases h : p.Shares
  · cases hr : w.registry.default? with
    | some shared => rw [attachCache_shared h hr]
    | none =>
      rw [attachCache_registers h hr]
      exact hosts_cacheToShare p.cache w.workspace
  · cases hc : p.cache with
    | some cache => rw [attachCache_own h hc]
    | none =>
      rw [attachCache_new h hc]
      rfl

/-! ## Sessions that are made -/

theorem registry_attachHost (p : Plan) (w : World) : (attachHost p w).2.registry = w.registry := by
  unfold attachHost
  split <;> rfl

theorem furnished_attach (p : Plan) (w : World) :
    Furnished p w (attachHost p (attachCache p w).2).1 (attachCache p w).1 (attachCache p w).2.registry := by
  have hbare : ∀ given, (attachCache p w).2.workspace.BareHost given ↔ w.workspace.BareHost given :=
    fun given => by
      unfold Workspace.BareHost Workspace.memoryHost
      rw [hosts_attachCache]
  exact
    { givenHost := fun given hg hb => attachHost_given hg (mt (hbare given).mp hb)
      newHost := fun h => by
        rw [attachHost_new fun given hg => (hbare given).mpr (h given hg), hosts_attachCache]
      ownCache := fun h given hc => by rw [attachCache_own h hc]
      newCache := fun h hc => by rw [attachCache_new h hc]
      sharedCache := fun h shared hs => by rw [attachCache_shared h hs]
      givenCache := fun h hn given hc hb => by
        rw [attachCache_registers h hn, hc, cacheToShare_given hb]
      bareCache := fun h hn hb => by
        rw [attachCache_registers h hn, cacheToShare_new hb]
        rfl
      registered := fun h => by
        cases hr : w.registry.default? with
        | some shared =>
          rw [attachCache_shared h hr]
          exact hr
        | none =>
          rw [attachCache_registers h hr]
          exact Assoc.get?_insert_self w.registry.names CacheRegistry.defaultName _
      registry := fun h => by
        cases hc : p.cache with
        | some cache => rw [attachCache_own h hc]
        | none => rw [attachCache_new h hc] }

end World

variable {m m' : Stage} {p : World.Plan}

theorem Stage.session_created (m : Stage) (p : World.Plan) :
    ((m.created p).session m.world.sessions.length).resolver =
      .start p.options (World.attachCache p m.world).1
        (World.attachHost p (World.attachCache p m.world).2).1 := by
  let w := (World.attachHost p (World.attachCache p m.world).2).2
  have hlen : m.world.sessions.length = w.sessions.length := by
    rw [World.sessions_attachHost, World.sessions_attachCache]
  show (({ w with sessions := w.sessions ++ [_] } : World).session m.world.sessions.length).resolver = _
  rw [session_addSession, if_pos hlen]
  rfl

theorem Stage.furnished_created (m : Stage) (p : World.Plan) :
    World.Furnished p m.world ((m.created p).session m.world.sessions.length).resolver.host
      ((m.created p).session m.world.sessions.length).resolver.cache (m.created p).world.registry := by
  have hregistry : (m.created p).world.registry = (World.attachCache p m.world).2.registry :=
    World.registry_attachHost p (World.attachCache p m.world).2
  rw [m.session_created p, hregistry]
  exact World.furnished_attach p m.world

/-! ## What sessions give to hosts -/

/-- All that the tasks of a session have given they have given to its host. -/
def Stage.Loyal (m : Stage) : Prop := ∀ id task before after result,
  .ran id task before after result ∈ m.log → ∃ paths : List String,
    after.workspace.placed = paths.map ((m.session id).resolver.host, ·) ++ before.workspace.placed

theorem Move.loyal (h : Move m m') (hm : Sound m) (hl : m.Loyal) : m'.Loyal := by
  intro id task before after result ho
  have hold : .ran id task before after result ∈ m.log → ∃ paths : List String, after.workspace.placed =
      paths.map ((m'.session id).resolver.host, ·) ++ before.workspace.placed := fun ho => by
    rw [((h.attached hm).2 id (hm.known _ ho)).host]
    exact hl id task before after result ho
  rcases h.aside_or hm id with hd | ha
  · cases hd with
    | created p he hid => exact hold ho
    | asked hid =>
      rcases List.mem_cons.mp ho with he | ho
      · cases he
      · exact hold ho
    | heard hid hh =>
      rcases List.mem_cons.mp ho with he | ho
      · cases he
      · exact hold ho
    | fired hid hp => exact hold ho
    | disposed => exact hold ho
    | wentOn howner hp thrown =>
      rcases List.mem_cons.mp ho with he | ho
      · have htended := (hm.wentOn_cases howner hp thrown).tended
        have hhost := ((h.attached hm).2 id (hm.lt_of_owner howner)).host
        rcases m.occurrence_cases id _ thrown _ with hd | hran
        · cases he.trans hd
        · cases he.trans hran
          rw [hhost]
          exact htended.placed
      · exact hold ho
  · rcases ha.log with hlog | ⟨o, hlog, hne⟩
    · exact hold (hlog ▸ ho)
    · rw [hlog] at ho
      rcases List.mem_cons.mp ho with he | ho
      · exact absurd (congrArg Occurrence.session he).symm hne
      · exact hold ho

theorem Later.loyal (h : Later m m') (hm : Sound m) (hl : m.Loyal) : m'.Loyal := by
  induction h with
  | refl => exact hl
  | tail hlater hmove ih => exact hmove.loyal (Later.sound hlater hm) ih

theorem Timeline.loyal (h : Timeline m) : m.Loyal := by
  obtain ⟨w, hw, hlater⟩ := h
  exact hlater.loyal hw.sound fun _ _ _ _ _ ho => (List.not_mem_nil ho).elim

theorem Stage.lt_created (m : Stage) (p : World.Plan) :
    m.world.sessions.length < (m.created p).world.sessions.length := by
  have hlen : (World.attachHost p (World.attachCache p m.world).2).2.sessions.length =
      m.world.sessions.length := by
    rw [World.sessions_attachHost, World.sessions_attachCache]
  show _ < ((World.attachHost p (World.attachCache p m.world).2).2.sessions ++ [_]).length
  rw [List.length_append, hlen]
  exact Nat.lt_succ_self _

/-- A session gets its host and its cache from the plan, the registry and the contents of what is given. It
keeps both, whatever happens, and all that its tasks give to a host they give to that one. -/
theorem create_furnished (hm : Timeline m) (he : p.editor < m.world.editors.length)
    (hl : Later (m.created p) m') :
    World.Furnished p m.world (m'.session m.world.sessions.length).resolver.host
      (m'.session m.world.sessions.length).resolver.cache (m.created p).world.registry ∧
    ∀ task before after result, .ran m.world.sessions.length task before after result ∈ m'.log →
      ∃ paths : List String, after.workspace.placed =
        paths.map ((m'.session m.world.sessions.length).resolver.host, ·) ++ before.workspace.placed := by
  have hcreated : Timeline (m.created p) := hm.move (.deed _ (.created p he rfl))
  have hattached := (hl.attached hcreated.sound).2 _ (m.lt_created p)
  refine ⟨?_, (hcreated.later hl).loyal m.world.sessions.length⟩
  rw [hattached.host, hattached.cache]
  exact m.furnished_created p

/-! Sessions that resolve one package, with a host and a cache that they are given. -/

namespace Lending

def world (host : MemoryHost) : World :=
  { workspace := { hosts := [host], shelf := { caches := [{}] } }
    packages :=
      { packages := .ofList [("a", .ofList [("package.json", "\x7b\"types\":\"e.d.ts\"\x7d"), ("e.d.ts", "")])] }
    editors := [{ text := "require('a')" }] }

def plan (shareCache : Bool) : World.Plan :=
  { editor := 0, options := { shareCache }, host := some (.memory 0), cache := some (.memory 0)
    useRegistry := true, source := some .shelf }

def resolved (host : MemoryHost) (shareCache : Bool) : Stage :=
  (Stage.opening (world host) (plan shareCache)).onwards 0 0 3

def stocked : MemoryHost := { files := .ofList [("inmemory://model/b.d.ts", "")] }

theorem later_resolved {host : MemoryHost} {shareCache : Bool}
    (h : ∀ k < 3, ((Stage.opening (world host) (plan shareCache)).onwards 0 0 k).Goes 0 0) :
    Later (Stage.opening (world host) (plan shareCache)) (resolved host shareCache) :=
  Stage.later_onwards h

theorem stocked_used : ((resolved stocked false).session 0).resolver.host = .memory 0 ∧
    ((resolved stocked false).session 0).resolver.cache = .memory 0 ∧
    ∀ task before after result, .ran 0 task before after result ∈ (resolved stocked false).log →
      ∃ paths : List String, after.workspace.placed =
        paths.map (HostRef.memory 0, ·) ++ before.workspace.placed := by
  have hgoes : ∀ k < 3, ((Stage.opening (world stocked) (plan false)).onwards 0 0 k).Goes 0 0 := by
    decide +kernel
  let start : Stage := { loop := { state := world stocked } }
  have hstart : Timeline start := ⟨_, .of_editor rfl rfl rfl, .refl⟩
  have hnone : start.world.sessions.length = 0 := rfl
  obtain ⟨hfurnished, hgiven⟩ :=
    create_furnished (p := plan false) hstart Nat.one_pos (later_resolved hgoes)
  rw [hnone] at hfurnished hgiven
  have hhost : ((resolved stocked false).session 0).resolver.host = .memory 0 := by
    refine hfurnished.givenHost _ rfl ?_
    rintro ⟨k, he, hb⟩
    cases he
    cases hb
  have hcache : ((resolved stocked false).session 0).resolver.cache = .memory 0 :=
    hfurnished.ownCache (fun hs => Bool.false_ne_true hs.1) _ rfl
  refine ⟨hhost, hcache, fun task before after result ho => ?_⟩
  obtain ⟨paths, hp⟩ := hgiven task before after result ho
  rw [hhost] at hp
  exact ⟨paths, hp⟩

/-- A host and a cache that are empty are not used: the files go to a new host, and a new cache is registered. -/
theorem bare_replaced : Timeline (resolved {} true) ∧
    (plan true).host = some (.memory 0) ∧ (plan true).cache = some (.memory 0) ∧
    (world {}).registry.default? = none ∧
    ((resolved {} true).session 0).resolver.host = .memory 1 ∧
    ((resolved {} true).session 0).resolver.cache = .memory 1 ∧
    (resolved {} true).world.workspace.placed.map Prod.fst = [.memory 1, .memory 1] ∧
    (resolved {} true).world.registry.default? = some (.memory 1) := by
  have hways : (∀ k < 3, ((Stage.opening (world {}) (plan true)).onwards 0 0 k).Goes 0 0) ∧
      (world {}).registry.default? = none ∧
      ((resolved {} true).session 0).resolver.host = .memory 1 ∧
      ((resolved {} true).session 0).resolver.cache = .memory 1 ∧
      (resolved {} true).world.workspace.placed.map Prod.fst = [.memory 1, .memory 1] ∧
      (resolved {} true).world.registry.default? = some (.memory 1) := by
    decide +kernel
  obtain ⟨hgoes, hfacts⟩ := hways
  have hmade : Timeline (Stage.opening (world {}) (plan true)) := .opening (.of_editor rfl rfl rfl) Nat.one_pos
  exact ⟨hmade.later (later_resolved hgoes), rfl, rfl, hfacts⟩

end Lending

end DeclarationFetch
