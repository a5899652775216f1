import DeclarationFetch.Proofs.Resolution.Correspondence
import DeclarationFetch.Proofs.Resolution.Parallel
import DeclarationFetch.Proofs.Resolution.Watch

/-! # Files that are fetched once

A resolver with a cache in memory that nobody else writes to, over any number of passes one after
another.

* `Private c cache fit`: the cache that the collaborators have is one in memory, and only they use it.
* `Step.Thrifty`: wherever a step makes a request, the cache does not have the file, and whatever the
  source returns is in the cache from the next stop on.
* `Life`: passes one after another with everything that others may do in between and while a pass
  waits, and a log of what was fetched and when the cache was cleared.
* `life_fetches_once`: the source returns a text for a file at most once between two clears.
-/

namespace DeclarationFetch.Resolution

variable {ε α β : Type} {c : Collaborators ε} {cache : ε → MemoryCache} {fit : ε → Prop}

/-! ## Private caches -/

/-- What an action leaves of a cache in memory. -/
def Action.leaves : Action α → MemoryCache → MemoryCache
  | .store key text, cache => cache.set key text
  | _, cache => cache

theorem Action.contains_leaves {a : Action α} {cache : MemoryCache} {key : String}
    (h : cache.contains key) : (a.leaves cache).contains key := by
  cases a with
  | store other text =>
    show ((cache.set other text).get? key).isSome
    rw [MemoryCache.get?_set]
    split
    · rfl
    · exact h
  | _ => exact h

/-- The cache is one in memory that nobody writes to but the pass, where the environment is fit for it. -/
structure Private (c : Collaborators ε) (cache : ε → MemoryCache) (fit : ε → Prop) : Prop where
  cached : ∀ key e, (c.cached key e).1 = .ok (((cache e).get? key).map .text)
  perform : ∀ {α} (a : Action α) e, fit e →
    fit (c.perform a e).2 ∧ cache (c.perform a e).2 = a.leaves (cache e)
  onError : ∀ message e, fit e →
    fit (c.onError message e).2 ∧ cache (c.onError message e).2 = cache e

/-- A cache in memory of a workspace is private: hosts and reports leave it alone. -/
theorem private_memory (id : Nat) (host : HostRef) :
    Private (Workspace.collaborators (.memory id) host) (fun w => w.shelf.get id)
      (fun w => id < w.shelf.caches.length) where
  cached _ _ := rfl
  perform a w h := by
    cases a with
    | store key text =>
      have hlen : id < (w.shelf.set id ((w.shelf.get id).set key text)).caches.length := by simpa using h
      refine ⟨hlen, ?_⟩
      show (w.shelf.set id _).get id = _
      rw [CacheShelf.get_set, if_pos h]
      rfl
    | cached | isCached | onUpdate | onVersions => exact ⟨h, rfl⟩
    | hosted | host | makeRoom => cases host <;> exact ⟨h, rfl⟩
  onError _ _ h := ⟨h, rfl⟩

/-! ## Thrift -/

def Scene.has (s : Scene ε) (cache : ε → MemoryCache) (key : String) : Prop := (cache s.env).contains key

/-- The source has returned a text for a file. -/
def Request.Returned (request : Request) (answer : Answer) (key : String) : Prop :=
  key = request.key ∧ ∃ text, answer = .ok (some text)

namespace Step

/-- At the next stop the cache has the keys that are due, and it does not have the file of a request.
What the source returns for it is due at the stop after that, with all that the cache has when the
request is answered. -/
def Thrifty (cache : ε → MemoryCache) (fit : ε → Prop) : Step ε α → (String → Prop) → Prop
  | done _ s, due => fit s.env ∧ ∀ key, due key → s.has cache key
  | fetch request s resume, due =>
      fit s.env ∧ (∀ key, due key → s.has cache key) ∧ ¬ s.has cache request.key ∧
        ∀ answer s', fit s'.env → (resume answer s').Thrifty cache fit fun key =>
          s'.has cache key ∨ request.Returned answer key

namespace Thrifty

variable {step : Step ε α} {due due' : String → Prop}

theorem mono (h : step.Thrifty cache fit due) (hd : ∀ key, due' key → due key) :
    step.Thrifty cache fit due' := by
  cases step with
  | done result s => exact ⟨h.1, fun key hk => h.2 key (hd key hk)⟩
  | fetch request s resume => exact ⟨h.1, fun key hk => h.2.1 key (hd key hk), h.2.2⟩

theorem fit_scene (h : step.Thrifty cache fit due) : fit step.scene.env := by
  cases step <;> exact h.1

theorem has_of_due (h : step.Thrifty cache fit due) {key : String} (hk : due key) :
    step.scene.has cache key := by
  cases step with
  | done result s => exact h.2 key hk
  | fetch request s resume => exact h.2.1 key hk

theorem settled (h : step.Thrifty cache fit due) : step.Thrifty cache fit (step.scene.has cache) := by
  cases step with
  | done result s => exact ⟨h.1, fun _ => id⟩
  | fetch request s resume => exact ⟨h.1, fun _ => id, h.2.2⟩

theorem andThen {next : Except Fault α → Scene ε → Step ε β} (h : step.Thrifty cache fit due)
    (hn : ∀ result s, fit s.env → (next result s).Thrifty cache fit (s.has cache)) :
    (step.andThen next).Thrifty cache fit due := by
  induction step generalizing due with
  | done result s => exact (hn result s h.1).mono h.2
  | fetch request s resume ih =>
    exact ⟨h.1, h.2.1, h.2.2.1, fun answer s' hf => ih answer s' (h.2.2.2 answer s' hf)⟩

end Thrifty
end Step

/-- From every scene that is fit for it the walk loses nothing that the cache has, asks only for what it
does not have, and puts it there. -/
structure Walk.Thrifty (cache : ε → MemoryCache) (fit : ε → Prop) (w : Walk ε α) : Prop where
  step : ∀ s, fit s.env → (w s).Thrifty cache fit (s.has cache)

namespace Walk.Thrifty

variable {w : Walk ε α}

theorem ofExcept (result : Except Fault α) : (Walk.ofExcept result).Thrifty (ε := ε) cache fit :=
  ⟨fun _ hf => ⟨hf, fun _ => id⟩⟩

theorem of_bind {f : α → Walk ε β} (hf : ∀ a, (f a).Thrifty cache fit) {s : Scene ε}
    {due : String → Prop} (h : (w s).Thrifty cache fit due) : ((w >>= f) s).Thrifty cache fit due := by
  refine Step.Thrifty.andThen h fun result s' hs => ?_
  cases result with
  | error fault => exact ⟨hs, fun _ => id⟩
  | ok a => exact (hf a).step s' hs

theorem bind (h : w.Thrifty cache fit) {f : α → Walk ε β} (hf : ∀ a, (f a).Thrifty cache fit) :
    (w >>= f).Thrifty cache fit := ⟨fun s hs => of_bind hf (h.step s hs)⟩

theorem rescue (h : w.Thrifty cache fit) {f : Fault → Walk ε α}
    (hf : ∀ fault, (f fault).Thrifty cache fit) : (w.rescue f).Thrifty cache fit := by
  refine ⟨fun s hs => (h.step s hs).andThen fun result s' hs' => ?_⟩
  cases result with
  | ok a => exact ⟨hs', fun _ => id⟩
  | error fault => exact (hf fault).step s' hs'

variable (hc : Private c cache fit)
include hc

theorem act (a : Action α) : (Walk.act (c.perform a)).Thrifty cache fit := by
  refine ⟨fun s hs => ⟨(hc.perform a s.env hs).1, fun key hk => ?_⟩⟩
  show (cache (c.perform a s.env).2).contains key
  rw [(hc.perform a s.env hs).2]
  exact Action.contains_leaves hk

theorem report (u : Update) : (report c u).Thrifty cache fit := by
  refine ⟨fun s hs => ?_⟩
  show ((if s.options.handlers.updates then _ else _ : Walk ε Unit) s).Thrifty cache fit _
  split
  · exact (act hc (.onUpdate u)).step s hs
  · exact ⟨hs, fun _ => id⟩

/-- A file is asked for only if the cache does not have it, and what is returned goes into the cache
under the key that the cache was asked for, wherever the pins are by then. -/
theorem retrieve (package path : String) : (retrieve c package path).Thrifty cache fit := by
  refine ⟨fun s hs => ?_⟩
  let key := Package.fileKey package (s.pins.version? package) path
  let s₁ : Scene ε := { s with env := (c.cached key s.env).2 }
  obtain ⟨hs₁, hcache⟩ := hc.perform (.cached key) s.env hs
  have hsame : s₁.has cache = s.has cache := by
    funext other
    exact congrArg (fun m : MemoryCache => (m.contains other : Prop)) hcache
  have hcached : (c.cached (Package.fileKey package (s.pins.version? package) path) s.env).1 =
      .ok (((cache s.env).get? key).map .text) := hc.cached key s.env
  simp only [Resolution.retrieve, Bind.bind, Walk.bind, Walk.scene, Walk.act, Step.andThen, hcached]
  rw [← hsame]
  cases hget : (cache s.env).get? key with
  | some text =>
    exact (bind (report hc _) fun _ => ofExcept (.ok (some (Value.text text)))).step s₁ hs₁
  | none =>
    have hnew : ¬ s₁.has cache key := by
      rw [hsame]
      show ¬ ((cache s.env).get? key).isSome
      rw [hget]
      exact Bool.false_ne_true
    refine ⟨hs₁, fun _ => id, hnew, fun answer s₂ hs₂ => ?_⟩
    obtain fault | _ | text := answer
    · refine ⟨hs₂, ?_⟩
      rintro _ (hk | ⟨_, _, ⟨⟩⟩)
      exact hk
    · refine ⟨hs₂, ?_⟩
      rintro _ (hk | ⟨_, _, ⟨⟩⟩)
      exact hk
    · obtain ⟨hs₃, hstored⟩ := hc.perform (.store key text) s₂.env hs₂
      refine of_bind (w := Walk.act (c.store key text))
        (fun _ => bind (report hc _) fun _ => ofExcept _) ⟨hs₃, fun other hk => ?_⟩
      show (cache (c.perform (.store key text) s₂.env).2).contains other
      rw [hstored]
      rcases hk with hk | ⟨rfl, _⟩
      · exact Action.contains_leaves hk
      · show (((cache s₂.env).set key text).get? key).isSome
        rw [MemoryCache.get?_set, if_pos rfl]
        rfl

theorem handle (fault : Fault) : (handle c fault).Thrifty cache fit := by
  refine ⟨fun s hs => ?_⟩
  obtain h | ⟨message, h⟩ := handle_cases c fault s
  · rw [h]
    exact ⟨hs, fun _ => id⟩
  · rw [h]
    obtain ⟨hs', hcache⟩ := hc.onError message s.env hs
    refine ⟨hs', fun key hk => ?_⟩
    show (cache (c.onError message s.env).2).contains key
    rw [hcache]
    exact hk

end Walk.Thrifty

theorem Private.parallel (hc : Private c cache fit) :
    Parallel c c fun _ w _ => w.Thrifty cache fit where
  ofExcept := .ofExcept
  read h := ⟨fun s => (h s s (.refl s)).step s⟩
  change _ _ := ⟨fun _ hf => ⟨hf, fun _ => id⟩⟩
  setPins _ := ⟨fun _ hf => ⟨hf, fun _ => id⟩⟩
  act a _ := .act hc a
  place path text := (Walk.Thrifty.act hc (.host path text)).bind fun _ => ⟨fun _ hf => ⟨hf, fun _ => id⟩⟩
  retrieve := .retrieve hc
  bind h hf := h.bind hf
  closing _ _ h := ⟨fun s hf => (h.step s hf).andThen fun _ _ hs => ⟨hs, fun _ => id⟩⟩

theorem pass_thrifty (hc : Private c cache fit) (source : String) (parent : Parent) (budget : Budget) :
    (pass c source parent budget).Thrifty cache fit := by
  refine ⟨fun s hf => ?_⟩
  rw [pass_eq]
  exact (hc.parallel.course (fun h => h.rescue (.handle hc)) source parent budget).step _ hf

/-! ## Lives -/

inductive Event where
  /-- The source has returned a text for a file. -/
  | fetched (key : String)
  | cleared
  deriving Repr, DecidableEq

/-- What there is to be put down about the answer to a request. -/
def Request.events (request : Request) : Answer → List Event
  | .ok (some _) => [.fetched request.key]
  | _ => []

/-- Passes of one resolver one after another, each until it ends, with a log, the latest first. The step
is that of the last pass. Others may do what they like at any time, even while a pass waits, to all but
the cache, which they may only clear. -/
inductive Life (c : Collaborators ε) (cache : ε → MemoryCache) (fit : ε → Prop) :
    Step ε Unit → List Event → Prop
  | start {s : Scene ε} (hf : fit s.env) : Life c cache fit (.done (.ok ()) s) []
  | begun {result : Except Fault Unit} {s : Scene ε} {log : List Event} (source : String)
      (parent : Parent) (budget : Budget) (h : Life c cache fit (.done result s) log) :
      Life c cache fit (pass c source parent budget s) log
  | answered {request : Request} {s : Scene ε} {resume : Answer → Scene ε → Step ε Unit}
      {log : List Event} (answer : Answer) (h : Life c cache fit (.fetch request s resume) log) :
      Life c cache fit (resume answer s) (request.events answer ++ log)
  | elsewhere {step : Step ε Unit} {log : List Event} (s : Scene ε) (hf : fit s.env)
      (hs : cache s.env = cache step.scene.env) (h : Life c cache fit step log) :
      Life c cache fit (step.within s) log
  | cleared {step : Step ε Unit} {log : List Event} (s : Scene ε) (hf : fit s.env)
      (hs : cache s.env = (cache step.scene.env).clear) (h : Life c cache fit step log) :
      Life c cache fit (step.within s) (.cleared :: log)

def Event.key? : Event → Option String
  | fetched key => some key
  | cleared => none

def fetches (log : List Event) : List String := log.filterMap Event.key?

def sinceCleared (log : List Event) : List Event := log.takeWhile (· ≠ .cleared)

theorem fetches_subset {stretch log : List Event} (h : stretch <+: log)
    (hn : .cleared ∉ stretch) {key : String} (hk : key ∈ fetches stretch) :
    key ∈ fetches (sinceCleared log) := by
  obtain ⟨rest, rfl⟩ := h
  unfold sinceCleared
  rw [List.takeWhile_append_of_pos fun e he => by simpa using ne_of_mem_of_not_mem he hn]
  unfold fetches
  rw [List.filterMap_append]
  exact List.mem_append_left _ hk

/-- What holds of a resolver at each moment of its life. -/
structure Thrift (cache : ε → MemoryCache) (fit : ε → Prop) (step : Step ε Unit) (log : List Event) :
    Prop where
  thrifty : step.Thrifty cache fit (step.scene.has cache)
  held : ∀ key ∈ fetches (sinceCleared log), step.scene.has cache key
  once : ∀ stretch, stretch <:+: log → .cleared ∉ stretch → (fetches stretch).Nodup

namespace Thrift

variable {step : Step ε Unit} {log : List Event}

/-- A file that the cache did not have was not fetched since the last clear. -/
theorem once_cons (h : Thrift cache fit step log) {key : String}
    (hk : ¬ step.scene.has cache key) {stretch : List Event}
    (hi : stretch <:+: .fetched key :: log) (hn : .cleared ∉ stretch) : (fetches stretch).Nodup := by
  rcases List.infix_cons_iff.mp hi with hp | hi
  · rcases List.prefix_cons_iff.mp hp with rfl | ⟨rest, rfl, hrest⟩
    · exact List.nodup_nil
    · have hn' : .cleared ∉ rest := fun hm => hn (List.mem_cons_of_mem _ hm)
      have hnew : key ∉ fetches rest := fun hm =>
        hk (h.held key (fetches_subset hrest hn' hm))
      exact List.nodup_cons.mpr ⟨hnew, h.once rest hrest.isInfix hn'⟩
  · exact h.once stretch hi hn

theorem once_cleared (h : Thrift cache fit step log) {stretch : List Event}
    (hi : stretch <:+: .cleared :: log) (hn : .cleared ∉ stretch) : (fetches stretch).Nodup := by
  rcases List.infix_cons_iff.mp hi with hp | hi
  · rcases List.prefix_cons_iff.mp hp with rfl | ⟨rest, rfl, _⟩
    · exact List.nodup_nil
    · exact absurd (List.mem_cons_self ..) hn
  · exact h.once stretch hi hn

/-- A scene whose cache has nothing that it did not have before leaves what a step does. -/
theorem within {s : Scene ε} (h : step.Thrifty cache fit (step.scene.has cache)) (hf : fit s.env)
    (hs : ∀ key, s.has cache key → step.scene.has cache key) :
    (step.within s).Thrifty cache fit ((step.within s).scene.has cache) := by
  cases step with
  | done result s' => exact ⟨hf, fun _ => id⟩
  | fetch request s' resume => exact ⟨hf, fun _ => id, fun hk => h.2.2.1 (hs _ hk), h.2.2.2⟩

end Thrift

theorem Life.thrift (hc : Private c cache fit) {step : Step ε Unit} {log : List Event}
    (h : Life c cache fit step log) : Thrift cache fit step log := by
  -- On the events; a text that was answered is held from then on.
  induction h with
  | start hf =>
    exact ⟨⟨hf, fun _ => id⟩, fun _ hm => (List.not_mem_nil hm).elim, fun stretch hi _ => by
      rw [List.infix_nil.mp hi]
      exact List.nodup_nil⟩
  | @begun result s log source parent budget h ih =>
    have hstep := (pass_thrifty hc source parent budget).step s ih.thrifty.1
    exact ⟨hstep.settled, fun key hk => hstep.has_of_due (ih.held key hk), ih.once⟩
  | @answered request s resume log answer h ih =>
    have hstep := ih.thrifty.2.2.2 answer s ih.thrifty.1
    match answer, hstep with
    | .ok (some text), hstep =>
      refine ⟨hstep.settled, fun key hk => ?_, fun _ => ih.once_cons ih.thrifty.2.2.1⟩
      rcases List.mem_cons.mp hk with rfl | hk
      · exact hstep.has_of_due (.inr ⟨rfl, text, rfl⟩)
      · exact hstep.has_of_due (.inl (ih.held key hk))
    | .ok none, hstep =>
      exact ⟨hstep.settled, fun key hk => hstep.has_of_due (.inl (ih.held key hk)), ih.once⟩
    | .error fault, hstep =>
      exact ⟨hstep.settled, fun key hk => hstep.has_of_due (.inl (ih.held key hk)), ih.once⟩
  | @elsewhere step log s hf hs h ih =>
    have hsame : s.has cache = step.scene.has cache := by
      unfold Scene.has
      rw [hs]
    refine ⟨Thrift.within ih.thrifty hf fun key hk => hsame ▸ hk, fun key hk => ?_, ih.once⟩
    rw [Step.scene_within, hsame]
    exact ih.held key hk
  | @cleared step log s hf hs h ih =>
    refine ⟨Thrift.within ih.thrifty hf fun key hk => ?_, fun key hk => ?_, fun _ => ih.once_cleared⟩
    · have hk : ((cache step.scene.env).clear.get? key).isSome := hs ▸ hk
      cases hk
    · cases hk

theorem Life.fit_scene (hc : Private c cache fit) {step : Step ε Unit} {log : List Event}
    (h : Life c cache fit step log) : fit step.scene.env := (h.thrift hc).thrifty.fit_scene

/-- In the life of a resolver whose cache nobody else writes to, whatever the source answers and whatever
others do to the pins in between and while a pass waits, the source returns a text for a file at most
once between two clears of the cache. -/
theorem life_fetches_once (hc : Private c cache fit) {step : Step ε Unit} {log : List Event}
    (h : Life c cache fit step log) {stretch : List Event} (hi : stretch <:+: log)
    (hn : .cleared ∉ stretch) : (fetches stretch).Nodup := (h.thrift hc).once stretch hi hn

/-! ## An example -/

namespace Refetched

def packages : Request → Option String := Play.files "p" [
  ("package.json", "\x7b\"types\":\"index.d.ts\",\"version\":\"1.0.0\"\x7d"), ("index.d.ts", "")]

def served : Nat → Step Workspace Unit × List Event → Step Workspace Unit × List Event
  | n + 1, (.fetch request s resume, log) =>
      served n (resume (.ok (packages request)) s, request.events (.ok (packages request)) ++ log)
  | _, now => now

/-- A pass from where the last one has ended, over an import of the package. -/
def again (now : Step Workspace Unit × List Event) : Step Workspace Unit × List Event :=
  match now.1 with
  | .done _ s => served 2 (pass inMemory "require('p')" (.directory "/") ({} : Options).budget s, now.2)
  | _ => now

def unpinned (now : Step Workspace Unit × List Event) : Step Workspace Unit × List Event :=
  (now.1.within { now.1.scene with pins := {} }, now.2)

def emptied (now : Step Workspace Unit × List Event) : Step Workspace Unit × List Event :=
  (now.1.within { now.1.scene with
    env := { now.1.scene.env with shelf := now.1.scene.env.shelf.clear 0 } }, .cleared :: now.2)

/-- Three passes, one of them with other pins, and one after the cache was cleared. -/
def now : Step Workspace Unit × List Event :=
  again (emptied (again (unpinned (again (.done (.ok ()) (atFirst {}), [])))))

abbrev Lives (now : Step Workspace Unit × List Event) : Prop :=
  Life inMemory (fun w => w.shelf.get 0) (fun w => 0 < w.shelf.caches.length) now.1 now.2

theorem lives_served (n : Nat) {now : Step Workspace Unit × List Event} (h : Lives now) :
    Lives (served n now) := by
  induction n generalizing now with
  | zero => exact h
  | succ n ih =>
    obtain ⟨step, log⟩ := now
    cases step with
    | done result s => exact h
    | fetch request s resume => exact ih (.answered (.ok (packages request)) h)

theorem lives_again {now : Step Workspace Unit × List Event} (h : Lives now) : Lives (again now) := by
  obtain ⟨step, log⟩ := now
  cases step with
  | done result s => exact lives_served 2 (.begun _ _ _ h)
  | fetch request s resume => exact h

theorem private_inMemory :
    Private inMemory (fun w => w.shelf.get 0) (fun w => 0 < w.shelf.caches.length) :=
  private_memory 0 (.memory 0)

theorem lives_unpinned {now : Step Workspace Unit × List Event} (h : Lives now) :
    Lives (unpinned now) := .elsewhere _ (Life.fit_scene private_inMemory h) rfl h

theorem lives_emptied {now : Step Workspace Unit × List Event} (h : Lives now) :
    Lives (emptied now) := by
  have hfit := Life.fit_scene private_inMemory h
  refine .cleared _ ?_ ?_ h
  · simpa [CacheShelf.clear] using hfit
  · exact (CacheShelf.get_set ..).trans (if_pos hfit)

theorem lives_now : Lives now := by
  have hstart : Lives (.done (.ok ()) (atFirst {}), []) := .start (Nat.zero_lt_one)
  exact lives_again (lives_emptied (lives_again (lives_unpinned (lives_again hstart))))

/-- The manifest and the entry are fetched once before the cache is cleared and once after. -/
theorem now_fetches_once :
    now.2 = [.fetched "p@1.0.0/index.d.ts", .fetched "p@1.0.0/package.json", .cleared,
      .fetched "p@1.0.0/index.d.ts", .fetched "p/package.json"] ∧
    (fetches (now.2.take 2)).Nodup ∧ (fetches (now.2.drop 3)).Nodup := by
  have hlog : now.2 = [.fetched "p@1.0.0/index.d.ts", .fetched "p@1.0.0/package.json", .cleared,
      .fetched "p@1.0.0/index.d.ts", .fetched "p/package.json"] := by decide +kernel
  have hafter := List.take_prefix 2 now.2
  have hbefore := List.drop_suffix 3 now.2
  exact ⟨hlog, life_fetches_once private_inMemory lives_now hafter.isInfix (hlog ▸ by decide),
    life_fetches_once private_inMemory lives_now hbefore.isInfix (hlog ▸ by decide)⟩

end Refetched

end DeclarationFetch.Resolution
