import DeclarationFetch.Proofs.Cache.Entries
import DeclarationFetch.Proofs.Registry.Replies
import DeclarationFetch.Proofs.Resolution.Parallel
import DeclarationFetch.Proofs.Resolution.Policy
import DeclarationFetch.Proofs.Resolution.Watch

/-! # Where the texts come from

Whatever passes with a registry store or place is the body of a response that was accepted, or was in the
cache when the first of them began.

* `CachedTexts c texts`: what the cache returns is among its texts, to which only storing adds; `cachedTexts`
  for the caches of a workspace.
* `Delivered ε`: an environment with the replies that were received and the texts that were handed over.
* `Traced first replies text`: the text was there at first, or came with a reply.
* `AllTraced`: all texts that are there or were handed over have an origin; each action of a pass keeps it.
* `Service`: passes one after another, whose requests a client answers from the web of the moment.
* `service_texts`: with responses that were to be expected, every text is the body of one with status 200.
-/

namespace DeclarationFetch.Resolution

open DeclarationFetch.Registry (Client Reply Response Web)

variable {ε α : Type} {c : Collaborators ε} {texts : ε → String → Prop}

/-! ## Texts in a cache -/

def Action.stored? : Action α → Option String
  | .store _ text => some text
  | _ => none

/-- What the cache returns is among its texts, to which only storing adds. -/
structure CachedTexts (c : Collaborators ε) (texts : ε → String → Prop) : Prop where
  cached : ∀ key e text, (c.cached key e).1 = .ok (some (.text text)) → texts e text
  perform : ∀ {α} (a : Action α) e text, texts (c.perform a e).2 text →
    texts e text ∨ a.stored? = some text
  onError : ∀ message e text, texts (c.onError message e).2 text → texts e text

/-! ## Caches of a workspace -/

def textsIn : CacheRef → Workspace → String → Prop
  | .memory id, w, text => ∃ key, (w.shelf.get id).get? key = some text
  | .disk _, w, text => DiskCache.Held w.tree text

theorem cachedTexts_memory (id : Nat) (host : HostRef) :
    CachedTexts (Workspace.collaborators (.memory id) host) (textsIn (.memory id)) where
  cached key w text h := by
    have hget : ((w.shelf.get id).get? key).map Value.text = some (.text text) := Except.ok.inj h
    obtain ⟨found, hfound, hvalue⟩ := Option.map_eq_some_iff.mp hget
    cases hvalue
    exact ⟨key, hfound⟩
  perform a w text h := by
    cases a with
    | store key stored =>
      obtain ⟨other, hother⟩ := h
      have hget : ((w.shelf.set id ((w.shelf.get id).set key stored)).get id).get? other = some text :=
        hother
      rw [CacheShelf.get_set] at hget
      split at hget
      · rw [MemoryCache.get?_set] at hget
        split at hget
        · exact .inr hget
        · exact .inl ⟨other, hget⟩
      · exact .inl ⟨other, hget⟩
    | cached | isCached | onUpdate | onVersions => exact .inl h
    | hosted | host | makeRoom => cases host <;> exact .inl h
  onError _ _ _ h := h

theorem held_of_cached {cache : DiskCache} {key text : String} {w : Workspace}
    (h : DiskCache.Held (Workspace.cached (.disk cache) key w).2.tree text) :
    DiskCache.Held w.tree text := by
  simp only [Workspace.cached, Workspace.onDisk] at h
  cases hget : cache.get w.tree key with
  | error fault =>
    rw [hget] at h
    exact h
  | ok found =>
    rw [hget] at h
    exact DiskCache.held_of_get hget h

theorem cachedTexts_disk (cache : DiskCache) (id : Nat) :
    CachedTexts (Workspace.collaborators (.disk cache) (.memory id)) (textsIn (.disk cache)) where
  cached key w text h := by
    have hcached : (Workspace.cached (.disk cache) key w).1 = .ok (some (.text text)) := h
    simp only [Workspace.cached, Workspace.onDisk] at hcached
    cases hget : cache.get w.tree key with
    | error fault =>
      rw [hget] at hcached
      cases hcached
    | ok found =>
      obtain ⟨value, tree⟩ := found
      rw [hget] at hcached
      have hvalue : value = .text text := by
        cases value <;> cases hcached
        rfl
      exact DiskCache.get_held (hvalue ▸ hget)
  perform a w text h := by
    cases a with
    | store key stored => exact (DiskCache.held_of_set h).imp_right fun heq => congrArg some heq
    | cached | isCached => exact .inl (held_of_cached h)
    | hosted | host | makeRoom | onUpdate | onVersions => exact .inl h
  onError _ _ _ h := h

/-- A host in memory leaves the files on disk alone. -/
theorem cachedTexts (cache : CacheRef) (id : Nat) :
    CachedTexts (Workspace.collaborators cache (.memory id)) (textsIn cache) := by
  cases cache with
  | memory cacheId => exact cachedTexts_memory cacheId (.memory id)
  | disk directory => exact cachedTexts_disk directory id

/-! ## Texts handed over -/

inductive Delivery where
  | stored (key text : String)
  | placed (path text : String)
  deriving Repr, DecidableEq

def Delivery.text : Delivery → String
  | stored _ text => text
  | placed _ text => text

/-- An environment with the replies that were received and the texts that passes have handed to the cache
and to the host, the latest first. -/
structure Delivered (ε : Type) where
  env : ε
  replies : List Reply
  deliveries : List Delivery

namespace Delivered

def keep (e : Delivered ε) (r : Except Fault α × ε) : Except Fault α × Delivered ε :=
  (r.1, { e with env := r.2 })

def deliver (e : Delivered ε) (r : Except Fault α × ε) (d : Delivery) : Except Fault α × Delivered ε :=
  (r.1, { e with env := r.2, deliveries := d :: e.deliveries })

end Delivered

def Collaborators.delivered (c : Collaborators ε) : Collaborators (Delivered ε) where
  cached key e := e.keep (c.cached key e.env)
  isCached key e := e.keep (c.isCached key e.env)
  store key text e := e.deliver (c.store key text e.env) (.stored key text)
  hosted path e := e.keep (c.hosted path e.env)
  host path text e := e.deliver (c.host path text e.env) (.placed path text)
  makeRoom path e := e.keep (c.makeRoom path e.env)
  onUpdate u e := e.keep (c.onUpdate u e.env)
  onVersions pins e := e.keep (c.onVersions pins e.env)
  onError message e := e.keep (c.onError message e.env)

namespace Scene

def delivered (s : Scene ε) : Scene (Delivered ε) := ⟨s.options, s.pins, s.context, ⟨s.env, [], []⟩⟩

def replied (s : Scene (Delivered ε)) (reply : Reply) : Scene (Delivered ε) :=
  { s with env := { s.env with replies := reply :: s.env.replies } }

def left (s : Scene (Delivered ε)) (options : Options) (pins : Pins) (context : Context) (env : ε) :
    Scene (Delivered ε) :=
  ⟨options, pins, context, { s.env with env := env }⟩

end Scene

/-- The text was there at first, or it is the body of a response that was taken for no error. -/
def Traced (first : String → Prop) (replies : List Reply) (text : String) : Prop :=
  first text ∨ ∃ response, .ok response ∈ replies ∧ response.isError = false ∧ response.text = .ok text

theorem Traced.mono {first : String → Prop} {replies replies' : List Reply} {text : String}
    (hr : replies ⊆ replies') (h : Traced first replies text) : Traced first replies' text :=
  h.imp_right fun ⟨response, hm, htext⟩ => ⟨response, hr hm, htext⟩

/-! ## What a pass keeps -/

structure AllTraced (texts : ε → String → Prop) (first : String → Prop) (e : Delivered ε) : Prop where
  cached : ∀ text, texts e.env text → Traced first e.replies text
  delivered : ∀ d ∈ e.deliveries, Traced first e.replies d.text

namespace AllTraced

variable {first : String → Prop} {e e' : Delivered ε}

theorem of_replies (h : AllTraced texts first e) (ht : ∀ text, texts e'.env text → texts e.env text)
    (hr : e.replies ⊆ e'.replies) (hd : e'.deliveries = e.deliveries) : AllTraced texts first e' where
  cached text htext := (h.cached text (ht text htext)).mono hr
  delivered d hm := (h.delivered d (hd ▸ hm)).mono hr

theorem deliver (h : AllTraced texts first e) {env : ε} {d : Delivery} (ho : Traced first e.replies d.text)
    (ht : ∀ text, texts env text → texts e.env text ∨ text = d.text) :
    AllTraced texts first { e with env := env, deliveries := d :: e.deliveries } where
  cached text htext := by
    cases ht text htext with
    | inl hold => exact h.cached text hold
    | inr hnew => exact hnew ▸ ho
  delivered other hm := by
    cases List.mem_cons.mp hm with
    | inl hnew => exact hnew ▸ ho
    | inr hold => exact h.delivered other hold

variable (hc : CachedTexts c texts)
include hc

theorem act (h : AllTraced texts first e) (a : Action α) (hs : a.stored? = none) (hp : a.places = false) :
    AllTraced texts first (c.delivered.perform a e).2 := by
  have htexts : ∀ text, texts (c.perform a e.env).2 text → texts e.env text := fun text ht =>
    (hc.perform a e.env text ht).resolve_right (by simp [hs])
  cases a with
  | store => cases hs
  | host => cases hp
  | _ => exact h.of_replies htexts (List.Subset.refl _) rfl

theorem store (h : AllTraced texts first e) (key : String) {text : String}
    (ho : Traced first e.replies text) : AllTraced texts first (c.delivered.store key text e).2 :=
  h.deliver ho fun _ ht => (hc.perform (.store key text) e.env _ ht).imp_right fun hs =>
    (Option.some.inj hs).symm

theorem host (h : AllTraced texts first e) (path : String) {text : String}
    (ho : Traced first e.replies text) : AllTraced texts first (c.delivered.host path text e).2 :=
  h.deliver ho fun _ ht => (hc.perform (.host path text) e.env _ ht).imp_right fun hs => nomatch hs

theorem injected {path text : String} {s s' : Scene (Delivered ε)} {result : Except Fault Unit}
    (h : AllTraced texts first s.env) (ho : Traced first s.env.replies text)
    (hi : Injected c.delivered path text s result s') : AllTraced texts first s'.env := by
  have hheld := h.act hc (.hosted path) rfl rfl
  cases hi with
  | unreadable | present => exact hheld
  | refused | placed => exact hheld.host hc path ho

end AllTraced

theorem Injected.replies_eq {path text : String} {s s' : Scene (Delivered ε)} {result : Except Fault Unit}
    (h : Injected c.delivered path text s result s') : s'.env.replies = s.env.replies := by
  cases h <;> rfl

namespace Provenance

variable {first : String → Prop} {s s' : Scene (Delivered ε)}

structure Since (texts : ε → String → Prop) (first : String → Prop) (s s' : Scene (Delivered ε)) :
    Prop where
  replies : s.env.replies ⊆ s'.env.replies
  sound : AllTraced texts first s.env → AllTraced texts first s'.env

theorem Since.of_env_eq (h : s'.env = s.env) : Since texts first s s' :=
  ⟨h ▸ List.Subset.refl _, fun hs => h ▸ hs⟩

theorem Since.act (hc : CachedTexts c texts) (a : Action α) (hs : a.stored? = none)
    (hp : a.places = false) : Since texts first s { s with env := (c.delivered.perform a s.env).2 } := by
  refine ⟨?_, fun h => h.act hc a hs hp⟩
  cases a <;> exact List.Subset.refl _

/-- The answers come with replies, and others add nothing to the cache. -/
def regime (texts : ε → String → Prop) (first : String → Prop) : Regime (Delivered ε) where
  asks _ s := AllTraced texts first s.env
  answers _ s answer s' := Since texts first s s' ∧
    ∀ text, answer = .ok (some text) → Traced first s'.env.replies text
  valid s := AllTraced texts first s.env
  since := Since texts first
  refl _ := ⟨List.Subset.refl _, id⟩
  trans h h' := ⟨List.Subset.trans h.replies h'.replies, h'.sound ∘ h.sound⟩
  valid_of_since h := h.sound

def account (hc : CachedTexts c texts) (first : String → Prop) : Account c.delivered where
  toRegime := regime texts first
  found s _ _ o := ∀ text, o = some (.text text) → Traced first s.env.replies text
  pursued _ _ := True
  found_of_since hs h text ho := (h text ho).mono hs.replies
  pursued_of_since _ _ := trivial
  reported u _ := .act hc (.onUpdate u) rfl rfl
  cached {s package path} hv _ := by
    let key := Package.fileKey package (s.pins.version? package) path
    refine ⟨.act hc (.cached key) rfl rfl, ?_⟩
    rintro value hvalue text ⟨⟩
    exact hv.cached text (hc.cached key s.env.env text hvalue)
  asked hv hs _ := hs.sound hv
  answered {_ _ s' _ _ _} _ _ h := by
    refine ⟨h.1, ?_⟩
    rintro o ho text htext
    obtain ⟨found, hfound, hvalue⟩ := Option.map_eq_some_iff.mp htext
    cases hvalue
    exact h.2 text (ho.trans (congrArg Except.ok hfound))
  stored _ _ hf := ⟨List.Subset.refl _, fun h => h.store hc _ (hf _ rfl)⟩
  sought key _ := .act hc (.isCached key) rfl rfl
  injected hv _ hf hi := ⟨hi.replies_eq ▸ List.Subset.refl _, fun h => h.injected hc (hf _ rfl) hi⟩
  pinned {s package _ _ _ _ version} _ _ _ _ _ _ _ _ := by
    let pins := s.pins.insert package (.text version)
    exact Regime.since_repinned _ (.of_env_eq rfl) (.act hc (.onVersions pins) rfl rfl)
  looked {_ package path} _ _ := .act hc (.hosted (Package.hostPath package path)) rfl rfl
  readied {_ package path} _ _ := .act hc (.makeRoom (Package.hostPath package path)) rfl rfl
  failed message _ :=
    ⟨List.Subset.refl _, fun h => h.of_replies (hc.onError message _) (List.Subset.refl _) rfl⟩

theorem impartial (hc : CachedTexts c texts) (first : String → Prop) : (account hc first).Impartial where
  pursued _ _ := trivial
  marked _ _ := .of_env_eq rfl
  recorded _ _ := .of_env_eq rfl

end Provenance

/-! ## Passes with a registry -/

/-- Passes one after another whose requests a client answers, each from the web as it is then. The step is
that of the last pass. Others may do what they like at any time, even while a pass waits, but they add no
texts to the cache. -/
inductive Service (c : Collaborators ε) (texts : ε → String → Prop) (client : Client)
    (first : String → Prop) : Step (Delivered ε) Unit → Prop
  | start {s : Scene ε} (hf : ∀ text, texts s.env text → first text) :
      Service c texts client first (.done (.ok ()) s.delivered)
  /-- The last pass has ended, or it waits and is given up. -/
  | begun {step : Step (Delivered ε) Unit} (source : String) (parent : Parent) (budget : Budget)
      (h : Service c texts client first step) :
      Service c texts client first (pass c.delivered source parent budget step.scene)
  | answered {request : Request} {s : Scene (Delivered ε)}
      {resume : Answer → Scene (Delivered ε) → Step (Delivered ε) Unit} (web : Web)
      (h : Service c texts client first (.fetch request s resume)) :
      Service c texts client first
        (resume (client.fetch request web).1 (s.replied (client.replyTo request web)))
  | elsewhere {step : Step (Delivered ε) Unit} (options : Options) (pins : Pins) (context : Context)
      {env : ε} (ht : ∀ text, texts env text → texts step.scene.env.env text)
      (h : Service c texts client first step) :
      Service c texts client first (step.within (step.scene.left options pins context env))

namespace Service

variable {first : String → Prop} {root : String} {id : Nat} {step : Step (Delivered ε) Unit}

theorem ends (hc : CachedTexts c texts) (h : Service c texts (Client.sharing root id) first step) :
    step.Ends (Provenance.regime texts first) fun _ s => AllTraced texts first s.env := by
  -- On the moves; what every stop keeps is `AllTraced`, which an answer extends by its own reply.
  induction h with
  | start hf => exact ⟨fun text ht => .inl (hf text ht), fun _ hm => nomatch hm⟩
  | @begun step source parent budget h ih =>
    have hstart : AllTraced texts first step.scene.env := ih.scene (fun _ _ hs => hs) fun _ _ hs => hs
    have hpass := (Provenance.impartial hc first).pass source parent budget
      (s := { step.scene with context := {} }) hstart
    exact hpass.mono fun _ _ hs => hs.sound hstart
  | @answered request s resume web h ih =>
    refine ih.2 _ _ ⟨⟨List.subset_cons_self .., fun hs => ?_⟩, fun text htext => ?_⟩
    · exact hs.of_replies (fun _ ht => ht) (List.subset_cons_self ..) rfl
    · rw [Client.fetch_sharing] at htext
      obtain ⟨response, hreply, haccepted⟩ := Client.read_eq_text_iff.mp htext
      exact .inr ⟨response, List.mem_cons.mpr (.inl hreply.symm), haccepted⟩
  | @elsewhere step options pins context env ht h ih =>
    have hsound : AllTraced texts first step.scene.env := ih.scene (fun _ _ hs => hs) fun _ _ hs => hs
    have hleft : AllTraced texts first (step.scene.left options pins context env).env :=
      hsound.of_replies ht (List.Subset.refl _) rfl
    refine Step.Ends.within ih (fun _ => hleft) (fun _ => hleft) fun request answer s' ha => ?_
    exact ⟨⟨ha.1.replies, fun _ => ha.1.sound hleft⟩, ha.2⟩

end Service

/-- The text is in the cache, or it was given to the cache or to the host. -/
def PassedOn (texts : ε → String → Prop) (e : Delivered ε) (text : String) : Prop :=
  texts e.env text ∨ ∃ d ∈ e.deliveries, d.text = text

theorem AllTraced.handed {first : String → Prop} {e : Delivered ε} {text : String}
    (h : AllTraced texts first e) (hh : PassedOn texts e text) : Traced first e.replies text := by
  cases hh with
  | inl hcached => exact h.cached text hcached
  | inr hdelivered =>
    obtain ⟨d, hd, htext⟩ := hdelivered
    exact htext ▸ h.delivered d hd

theorem Traced.foreseen {first : String → Prop} {replies : List Reply} {text : String}
    (h : Traced first replies text) (hf : ∀ response, .ok response ∈ replies → response.Foreseen) :
    first text ∨ ∃ response, .ok response ∈ replies ∧ response.status = 200 ∧ response.text = .ok text := by
  refine h.imp_right fun ⟨response, hm, haccepted, htext⟩ => ⟨response, hm, ?_, htext⟩
  have hstatus := (hf response hm).isError_iff
  rw [haccepted] at hstatus
  exact Decidable.not_not.mp fun hne => Bool.false_ne_true (hstatus.mpr hne)

/-- Every text that passes have given to the cache or to the host was there at first, or is the body of a
response that was taken for no error; if all responses were to be expected, it has status 200. And the
client answers a reply that was to be expected with what it stands for: a text only if the status is 200, no
file if it is 404, and else a failure to fetch. -/
theorem service_texts {first : String → Prop} {root : String} {id : Nat} {step : Step (Delivered ε) Unit}
    (hc : CachedTexts c texts) (h : Service c texts (Client.sharing root id) first step) :
    let now := step.scene.env
    (∀ text, PassedOn texts now text → Traced first now.replies text) ∧
    ((∀ response, .ok response ∈ now.replies → response.Foreseen) → ∀ text, PassedOn texts now text →
      first text ∨ ∃ response, .ok response ∈ now.replies ∧ response.status = 200 ∧
        response.text = .ok text) ∧
    ∀ request web,
      let client := Client.sharing root id
      (client.replyTo request web).Foreseen →
        (client.replyTo request web).Yields (client.fetch request web).1 := by
  intro now
  have hsound : AllTraced texts first now := (h.ends hc).scene (fun _ _ hs => hs) fun _ _ hs => hs
  refine ⟨fun text hh => hsound.handed hh, fun hf text hh => ?_, Client.fetch_yields root id⟩
  exact (hsound.handed hh).foreseen hf

/-! ## An example -/

namespace Moved

def manifest : String := "\x7b\"types\":\"index.d.ts\"\x7d"

def bytes (text : String) : List UInt8 := Text.Utf8.encode text

def web (entry : Response) : Web where
  replies := ⟨[("https://unpkg.com/p/package.json", .ok { body := bytes manifest }),
    ("https://unpkg.com/p/index.d.ts", .ok entry)]⟩

def client : Client := .sharing "https://unpkg.com" 0

def answered (entry : Response) : Step (Delivered Workspace) Unit → Step (Delivered Workspace) Unit
  | .fetch request s resume =>
      resume (client.fetch request (web entry)).1 (s.replied (client.replyTo request (web entry)))
  | step => step

def ended (entry : Response) : Step (Delivered Workspace) Unit :=
  answered entry (answered entry
    (pass inMemory.delivered "require('p')" (.directory "/") ({} : Options).budget (atFirst {}).delivered))

theorem service_answered {entry : Response} {step : Step (Delivered Workspace) Unit}
    (h : Service inMemory (textsIn (.memory 0)) client (fun _ => False) step) :
    Service inMemory (textsIn (.memory 0)) client (fun _ => False) (answered entry step) := by
  cases step with
  | done result s => exact h
  | fetch request s resume => exact h.answered (web entry)

theorem service_ended (entry : Response) :
    Service inMemory (textsIn (.memory 0)) client (fun _ => False) (ended entry) := by
  have hstart : Service inMemory (textsIn (.memory 0)) client (fun _ => False)
      (.done (.ok ()) (atFirst {}).delivered) := .start fun text ⟨_, hkey⟩ => nomatch hkey
  exact service_answered (service_answered (hstart.begun _ _ _))

theorem mem_responses {replies : List Reply} {response : Response} (h : .ok response ∈ replies) :
    response ∈ replies.filterMap Except.toOption :=
  List.mem_filterMap.mpr ⟨.ok response, h, rfl⟩

def found : Response := { body := bytes "export \x7b\x7d" }

theorem found_texts :
    CachedTexts inMemory (textsIn (.memory 0)) ∧
    Service inMemory (textsIn (.memory 0)) client (fun _ => False) (ended found) ∧
    PassedOn (textsIn (.memory 0)) (ended found).scene.env "export \x7b\x7d" ∧
    ∃ response, .ok response ∈ (ended found).scene.env.replies ∧ response.status = 200 ∧
      response.text = .ok "export \x7b\x7d" := by
  have hc : CachedTexts inMemory (textsIn (.memory 0)) := cachedTexts (.memory 0) 0
  obtain ⟨hforeseen, hplaced⟩ :
      (∀ response ∈ (ended found).scene.env.replies.filterMap Except.toOption, response.Foreseen) ∧
      .placed "node_modules/p/index.d.ts" "export \x7b\x7d" ∈ (ended found).scene.env.deliveries := by
    decide +kernel
  have hpassed : PassedOn (textsIn (.memory 0)) (ended found).scene.env "export \x7b\x7d" :=
    .inr ⟨_, hplaced, rfl⟩
  obtain ⟨-, htexts, -⟩ := service_texts hc (service_ended found)
  have hresponse := htexts (fun _ hm => hforeseen _ (mem_responses hm)) _ hpassed
  exact ⟨hc, service_ended found, hpassed, hresponse.resolve_left id⟩

/-- The entry of the package has another address now, and the client does not go there. -/
def moved : Response := { status := 301, body := bytes "moved", location := some "/p@2/index.d.ts" }

/-- The body of the response that tells of the other address goes into the cache and into the host. And an
address that is no URL is no failure to fetch. -/
theorem moved_passed_on :
    Service inMemory (textsIn (.memory 0)) client (fun _ => False) (ended moved) ∧
    (ended moved).scene.env.deliveries = [.placed "node_modules/p/index.d.ts" "moved",
      .stored "p/index.d.ts" "moved", .placed "node_modules/p/package.json" manifest,
      .stored "p/package.json" manifest] ∧
    (∀ response, .ok response ∈ (ended moved).scene.env.replies → response.status = 200 →
      response.text ≠ .ok "moved") ∧
    ∀ fault, (client.fetch ⟨"p", "\n", .null⟩ (web found)).1 ≠ .error (.fetch fault) := by
  obtain ⟨hdeliveries, hfound⟩ :
      (ended moved).scene.env.deliveries = [.placed "node_modules/p/index.d.ts" "moved",
        .stored "p/index.d.ts" "moved", .placed "node_modules/p/package.json" manifest,
        .stored "p/package.json" manifest] ∧
      ∀ response ∈ (ended moved).scene.env.replies.filterMap Except.toOption,
        response.status = 200 → response.text.toOption ≠ some "moved" := by decide +kernel
  have haddress : ¬ (client.replyTo ⟨"p", "\n", .null⟩ (web found)).Foreseen := by decide +kernel
  refine ⟨service_ended moved, hdeliveries, fun response hm hstatus htext => ?_, fun fault h => ?_⟩
  · exact hfound response (mem_responses hm) hstatus (congrArg Except.toOption htext)
  · rw [client, Client.fetch_sharing] at h
    exact haddress (Client.foreseen_of_read h)

end Moved

end DeclarationFetch.Resolution
