import DeclarationFetch.Proofs.Package.Placement
import DeclarationFetch.Proofs.Resolution.Watch

/-! # Updates of lookups

The updates that a lookup makes, whatever the cache has, the source answers and others do meanwhile.

* `Updated ε`: an environment with the updates that a walk has made.
* `Walk.Emits w s P`: from `s` the walk makes updates with `P`, if it ends without a fault.
* `Fetched`, `Entered`, `Reached`: the updates that belong to each end of a lookup.
* `lookups_told`: every lookup that comes to an end has told of it in one update.
-/

namespace DeclarationFetch.Resolution

variable {ε α β : Type} {c : Collaborators ε}

/-! ## Updates put down -/

/-- An environment with the updates so far, the latest first. -/
structure Updated (ε : Type) where
  env : ε
  updates : List Update

def Updated.keep (e : Updated ε) (r : Except Fault α × ε) : Except Fault α × Updated ε :=
  (r.1, ⟨r.2, e.updates⟩)

def Collaborators.updated (c : Collaborators ε) : Collaborators (Updated ε) where
  cached key e := e.keep (c.cached key e.env)
  isCached key e := e.keep (c.isCached key e.env)
  store key text e := e.keep (c.store key text e.env)
  hosted path e := e.keep (c.hosted path e.env)
  host path text e := e.keep (c.host path text e.env)
  makeRoom path e := e.keep (c.makeRoom path e.env)
  onUpdate u e := ((c.onUpdate u e.env).1, ⟨(c.onUpdate u e.env).2, u :: e.updates⟩)
  onVersions pins e := e.keep (c.onVersions pins e.env)
  onError message e := e.keep (c.onError message e.env)

namespace Scene

def updated (s : Scene ε) : Scene (Updated ε) := ⟨s.options, s.pins, s.context, ⟨s.env, []⟩⟩

def plain (s : Scene (Updated ε)) : Scene ε := ⟨s.options, s.pins, s.context, s.env.env⟩

end Scene

/-- The same moves; the updates that others make are not put down. -/
def Play.updated (play : Play ε) : Play (Updated ε) where
  answer n request s := play.answer n request s.plain
  pins n request s := play.pins n request s.plain
  env n request s := ⟨play.env n request s.plain, s.env.updates⟩

/-- What a walk comes to among others, and the updates that it has made, in order. -/
def Walk.told (w : Walk (Updated ε) α) (s : Scene ε) (play : Play ε) : Except Fault α × List Update :=
  let run := (w s.updated).finish play.updated
  (run.1, run.2.1.env.updates.reverse)

/-! ## Walks and their updates -/

namespace Updates

def regime (ε : Type) : Regime (Updated ε) where
  asks _ _ := True
  answers _ s _ s' := s'.options = s.options ∧ s'.env.updates = s.env.updates
  valid s := s.options.handlers.updates = true
  since s s' := s'.options = s.options
  refl _ := rfl
  trans h h' := h'.trans h
  valid_of_since h hv := h ▸ hv

theorem follows (play : Play ε) : play.updated.Follows (regime ε) := fun _ _ _ _ => ⟨rfl, rfl⟩

end Updates

/-- From `s` the walk makes updates with `P`, the latest first, if it ends without a fault. -/
def Walk.Emits (w : Walk (Updated ε) α) (s : Scene (Updated ε)) (P : α → List Update → Prop) : Prop :=
  w.Ensures (Updates.regime ε) s fun a s' =>
    ∃ updates, s'.env.updates = updates ++ s.env.updates ∧ P a updates

namespace Walk.Emits

variable {s : Scene (Updated ε)} {w : Walk (Updated ε) α} {P Q : α → List Update → Prop}

theorem mono (h : w.Emits s P) (hpq : ∀ a us, P a us → Q a us) : w.Emits s Q :=
  Walk.Ensures.mono h fun a _ _ _ ⟨us, heq, hp⟩ => ⟨us, heq, hpq a us hp⟩

theorem pure {a : α} (h : P a []) : (Walk.pure a).Emits s P := Walk.Ensures.pure ⟨[], rfl, h⟩

theorem ofExcept {result : Except Fault α} (h : ∀ a, result = .ok a → P a []) :
    (Walk.ofExcept result).Emits s P := Walk.Ensures.ofExcept fun a ha => ⟨[], rfl, h a ha⟩

theorem read {f : Scene (Updated ε) → Walk (Updated ε) α} (h : (f s).Emits s P) :
    (Walk.scene >>= f).Emits s P := Walk.Ensures.read h

theorem bind {f : α → Walk (Updated ε) β} {R : β → List Update → Prop} (h : w.Emits s P)
    (hf : ∀ a us s', P a us → (f a).Emits s' fun b us' => R b (us' ++ us)) :
    (w >>= f).Emits s R := by
  refine Walk.Ensures.bind h fun a s₁ _ _ ha => ?_
  obtain ⟨us, heq, hp⟩ := ha
  refine Walk.Ensures.mono (hf a us s₁ hp) fun b s₂ _ _ hb => ?_
  obtain ⟨us', heq', hr⟩ := hb
  exact ⟨us' ++ us, by rw [heq', heq, List.append_assoc], hr⟩

theorem act {f : Updated ε → Except Fault α × Updated ε} (hf : (f s.env).2.updates = s.env.updates) :
    (Walk.act f).Emits s fun a us => (f s.env).1 = .ok a ∧ us = [] :=
  Walk.Ensures.act (fun _ => rfl) fun _ ha _ => ⟨[], hf, ha, rfl⟩

theorem request (r : Request) : (Walk.request r : Walk (Updated ε) _).Emits s fun _ us => us = [] := by
  refine Walk.Ensures.request (fun _ => trivial) fun answer s' _ ha => ?_
  exact ⟨ha.1, fun _ _ => ⟨[], ha.2, rfl⟩⟩

theorem report (u : Update) : (report c.updated u).Emits s fun _ us => us = [u] := by
  refine .of_valid fun (hv : s.options.handlers.updates = true) => .read ?_
  rw [if_pos hv]
  exact Walk.Ensures.act (fun _ => rfl) fun _ _ _ => ⟨[u], rfl, rfl⟩

end Walk.Emits

/-! ## Fetches -/

/-- The update that belongs to the end of a fetch, by what the cache had for the key. -/
inductive Fetched (key : String) : Option Value → Option Value → List Update → Prop
  | loaded (value : Value) : Fetched key (some value) (some value) [.loadedFromCache key]
  | stored (text : String) : Fetched key none (some (.text text)) [.storedToCache key]
  | missing : Fetched key none none []

def about (type : String) (updates : List Update) : List Update :=
  updates.filter fun u => u.type = type

theorem about_append (type : String) (us us' : List Update) :
    about type (us ++ us') = about type us ++ about type us' := List.filter_append ..

/-- Fetches are told of in updates of their own. -/
theorem Fetched.about_eq {key type : String} {held o : Option Value} {us : List Update}
    (h : Fetched key held o us) (hl : type ≠ "LoadedFromCache") (hs : type ≠ "StoredToCache") :
    about type us = [] := by
  cases h with
  | loaded => simp [about, Update.loadedFromCache, hl.symm]
  | stored => simp [about, Update.storedToCache, hs.symm]
  | missing => rfl

theorem Updates.retrieve (c : Collaborators ε) (s : Scene (Updated ε)) (package path : String) :
    let key := Package.fileKey package (s.pins.version? package) path
    (retrieve c.updated package path).Emits s fun o us =>
      ∃ held, (c.cached key s.env.env).1 = .ok held ∧ Fetched key held o us := by
  intro key
  have hcached : (Walk.act (c.updated.cached key)).Emits s fun held us =>
      (c.cached key s.env.env).1 = .ok held ∧ us = [] := .act rfl
  refine .read (hcached.bind fun held us s₁ hheld => ?_)
  obtain ⟨hheld, rfl⟩ := hheld
  cases held with
  | some value =>
    refine (Walk.Emits.report (.loadedFromCache key)).bind fun _ us s₂ hus => .pure ?_
    subst hus
    exact ⟨some value, hheld, .loaded value⟩
  | none =>
    refine (Walk.Emits.request _).bind fun answer us s₂ hus => ?_
    subst hus
    cases answer with
    | none => exact .pure ⟨none, hheld, .missing⟩
    | some text =>
      have hstore : (Walk.act (c.updated.store key text)).Emits s₂ fun a us =>
          (c.updated.store key text s₂.env).1 = .ok a ∧ us = [] := .act rfl
      refine hstore.bind fun _ us s₃ hus => ?_
      obtain ⟨-, rfl⟩ := hus
      refine (Walk.Emits.report (.storedToCache key)).bind fun _ us s₄ hus => .pure ?_
      subst hus
      exact ⟨none, hheld, .stored text⟩

/-! ## Silence -/

/-- From every scene the walk makes no update of the type, if it ends without a fault. -/
structure Walk.Silent (type : String) (w : Walk (Updated ε) α) : Prop where
  emits : ∀ s, w.Emits s fun _ us => about type us = []

namespace Walk.Silent

variable {type : String} {w : Walk (Updated ε) α}

theorem of_emits {P : Scene (Updated ε) → α → Prop}
    (h : ∀ s, w.Emits s fun a us => P s a ∧ us = []) : w.Silent type := by
  refine ⟨fun s => (h s).mono fun _ us hus => ?_⟩
  rw [hus.2]
  rfl

theorem ofExcept (result : Except Fault α) : (Walk.ofExcept result : Walk (Updated ε) α).Silent type :=
  ⟨fun _ => .ofExcept fun _ _ => rfl⟩

theorem act {f : Updated ε → Except Fault α × Updated ε} (hf : ∀ e, (f e).2.updates = e.updates) :
    (Walk.act f).Silent type := of_emits fun s => .act (hf s.env)

theorem andThen (h : w.Silent type) {f : α → Walk (Updated ε) β} {s : Scene (Updated ε)}
    {P : β → List Update → Prop} (hf : ∀ a s', (f a).Emits s' fun b us => P b (about type us)) :
    (w >>= f).Emits s fun b us => P b (about type us) := by
  refine (h.emits s).bind fun a us s' hus => (hf a s').mono fun b us' hp => ?_
  rw [about_append, hus, List.append_nil]
  exact hp

theorem report {u : Update} (hu : u.type ≠ type) : (report c.updated u).Silent type := by
  refine ⟨fun s => (Emits.report u).mono fun _ us hus => ?_⟩
  rw [hus]
  simp [about, hu]

theorem retrieve (package path : String) (hl : type ≠ "LoadedFromCache") (hs : type ≠ "StoredToCache") :
    (retrieve c.updated package path).Silent type :=
  ⟨fun s => (Updates.retrieve c s package path).mono fun _ _ ⟨_, _, h⟩ => h.about_eq hl hs⟩

theorem textOf (content : Value) : (textOf content : Walk (Updated ε) String).Silent type := by
  cases content with
  | text text => exact ofExcept (.ok text)
  | _ => exact ofExcept (.error .cachedNoText)

theorem inject (path text : String) : (inject c.updated path text).Silent type := by
  refine ⟨fun s => ?_⟩
  obtain ⟨result, s', hdone, hi⟩ := inject_eq_done (c := c.updated) path text s
  refine Ensures.of_eq_done hdone (fun _ => hi.options_eq) fun _ _ _ _ => ⟨[], ?_, rfl⟩
  cases hi <;> rfl

theorem pin (package version : String) : (pin c.updated package version).Silent type := by
  refine ⟨fun s => .read ?_⟩
  dsimp only
  split
  · exact .pure rfl
  · obtain ⟨result, hdone⟩ :=
      replacePins_eq_done (c := c.updated) (s.pins.insert package (.text version)) s
    refine Ensures.of_eq_done hdone (fun _ => rfl) fun _ _ _ _ => ⟨[], ?_, rfl⟩
    unfold Scene.repinned
    split <;> rfl

end Walk.Silent

namespace Updates

open Walk

variable {s : Scene (Updated ε)} {package path : String}

/-! ## Entries of packages -/

/-- What is told of the entry that the manifest of one package names, if it names one. -/
inductive Supplied (supplier : String) (typed : Bool) : Option Wanted → List Update → Prop
  | named {w : Wanted} (h : w.package = supplier) :
      Supplied supplier typed (some w) [.lookedUpPackage supplier typed true]
  | silent : Supplied supplier typed none []

theorem Supplied.eq_nil {supplier : String} {typed : Bool} {us : List Update}
    (h : Supplied supplier typed none us) : us = [] := by
  cases h
  rfl

theorem manifestEntry (package directory subPath : String) (content : Value) (typed : Bool) :
    (manifestEntry c.updated package directory subPath content typed).Emits s fun o us =>
      Supplied package typed o (about "LookedUpPackage" us) := by
  refine (Silent.textOf content).andThen fun text s₁ => ?_
  refine (Silent.ofExcept _).andThen fun manifest s₂ => ?_
  cases manifest.entry? with
  | none => exact .pure .silent
  | some entry =>
    refine (Silent.inject _ text).andThen fun _ s₃ => ?_
    have hreported : ∀ s₄, (do
        Resolution.report c.updated (.lookedUpPackage package typed true)
        Pure.pure (some ⟨package, "", entryPath directory subPath entry⟩) : Walk (Updated ε) _).Emits s₄
          fun o us => Supplied package typed o (about "LookedUpPackage" us) := fun s₄ => by
      refine (Emits.report _).bind fun _ us s₅ hus => .pure ?_
      subst hus
      exact .named rfl
    cases manifest.version? with
    | none => exact (Silent.ofExcept (.ok ())).andThen fun _ => hreported
    | some version =>
      refine (Silent.pin package version).andThen fun _ s₄ => ?_
      refine (Silent.act fun _ => rfl).andThen fun known s₅ => ?_
      split
      · exact (Silent.act fun _ => rfl).andThen fun _ => hreported
      · exact hreported s₅

theorem manifestFor (package subPath : String) :
    (manifestFor c.updated package subPath).Silent "LookedUpPackage" := by
  have hretrieve : ∀ path, (Resolution.retrieve c.updated package path).Silent "LookedUpPackage" :=
    fun path => .retrieve package path (by decide) (by decide)
  refine ⟨fun s => (hretrieve _).andThen (P := fun _ us => us = []) fun o s₁ => ?_⟩
  cases o with
  | some content => exact .pure rfl
  | none =>
    dsimp only
    split
    · exact .pure rfl
    · exact (hretrieve _).andThen (P := fun _ us => us = []) fun _ _ => .pure rfl

theorem typedEntry (package subPath : String) :
    (typedEntry c.updated package subPath).Emits s fun o us =>
      Supplied (Package.definitelyTyped package) true o (about "LookedUpPackage" us) := by
  have hretrieve : (Resolution.retrieve c.updated (Package.definitelyTyped package) "package.json").Silent
      "LookedUpPackage" := .retrieve _ _ (by decide) (by decide)
  refine hretrieve.andThen fun o s₁ => ?_
  cases o with
  | none => exact .pure .silent
  | some content => exact manifestEntry ..

theorem ownOrTypedEntry (package subPath : String) :
    (ownOrTypedEntry c.updated package subPath).Emits s fun o us =>
      Supplied package false o (about "LookedUpPackage" us) ∨
        Supplied (Package.definitelyTyped package) true o (about "LookedUpPackage" us) := by
  let P : Option Wanted → List Update → Prop := fun o us =>
    Supplied package false o us ∨ Supplied (Package.definitelyTyped package) true o us
  refine (manifestFor package subPath).andThen (P := P) fun o s₁ => ?_
  match o with
  | none => exact .pure (.inl .silent)
  | some (content, directory) =>
    refine (manifestEntry package directory subPath content false).bind fun o us s₂ hus => ?_
    cases o with
    | some w => exact .pure (.inl hus)
    | none =>
      refine (typedEntry package subPath).mono fun o us' hus' => .inr ?_
      rw [about_append, hus.eq_nil, List.append_nil]
      exact hus'

/-- What is told of the entry of a package, as it was looked up. -/
inductive Entered (package : String) : Option Wanted → List Update → Prop
  | own {w : Wanted} (h : w.package = package) :
      Entered package (some w) [.lookedUpPackage package false true]
  | typed {w : Wanted} (h : w.package = Package.definitelyTyped package) :
      Entered package (some w) [.lookedUpPackage (Package.definitelyTyped package) true true]
  | missing : Entered package none [.lookedUpPackage package false false]

theorem packageEntry (package subPath : String) :
    (packageEntry c.updated package subPath).Emits s fun o us =>
      Entered package o (about "LookedUpPackage" us) := by
  let P : Option Wanted → List Update → Prop := fun o us =>
    Supplied package false o us ∨ Supplied (Package.definitelyTyped package) true o us
  -- A lookup that has not told of an entry tells of its end.
  have hreported : ∀ o us s₁, P o (about "LookedUpPackage" us) → (do
      if o.isNone then Resolution.report c.updated (.lookedUpPackage package false false)
      return o : Walk (Updated ε) (Option Wanted)).Emits s₁ fun o us' =>
        Entered package o (about "LookedUpPackage" (us' ++ us)) := fun o us s₁ ho => by
    cases o with
    | none =>
      refine (Emits.report _).bind fun _ us' s₂ hus' => .pure ?_
      subst hus'
      rw [about_append, ho.elim Supplied.eq_nil Supplied.eq_nil]
      exact .missing
    | some w =>
      refine .pure ?_
      rw [List.nil_append]
      generalize about "LookedUpPackage" us = told at ho
      cases ho with
      | inl ho =>
        cases ho with
        | named h => exact .own h
      | inr ho =>
        cases ho with
        | named h => exact .typed h
  refine .read ?_
  dsimp only
  split
  · exact (Emits.pure (P := fun o us => P o (about "LookedUpPackage" us)) (.inl .silent)).bind hreported
  · exact (ownOrTypedEntry package subPath).bind hreported

/-! ## Files of imports -/

/-- What is told of a file, if one was found. -/
inductive Sighted (package : String) : Option (Value × String) → List Update → Prop
  | found (content : Value) (path : String) :
      Sighted package (some (content, path)) [.lookedUpTypeFile (Path.join [package, path]) true]
  | silent : Sighted package none []

theorem retrieve_silent (package path : String) :
    (Resolution.retrieve c.updated package path).Silent "LookedUpTypeFile" :=
  .retrieve package path (by decide) (by decide)

theorem reportFile_pure (package path : String) (success : Bool) (a : α) :
    (do reportFile c.updated package path success; return a : Walk (Updated ε) α).Emits s fun b us =>
      b = a ∧ about "LookedUpTypeFile" us = [.lookedUpTypeFile (Path.join [package, path]) success] := by
  refine (Emits.report _).bind fun _ us s₁ hus => .pure ?_
  subst hus
  exact ⟨rfl, rfl⟩

theorem exactly (package path : String) :
    (exactly c.updated package path).Emits s fun o us =>
      Sighted package o (about "LookedUpTypeFile" us) := by
  refine (retrieve_silent package path).andThen fun o s₁ => ?_
  cases o with
  | none => exact .pure .silent
  | some content =>
    refine (reportFile_pure package path true (some (content, path))).mono fun o us hus => ?_
    obtain ⟨rfl, hus⟩ := hus
    exact hus ▸ .found content path

theorem firstOf (package path : String) (endings : List String) :
    (firstOf c.updated package path endings).Emits s fun o us =>
      Sighted package o (about "LookedUpTypeFile" us) := by
  induction endings generalizing s with
  | nil => exact .pure .silent
  | cons ending rest ih =>
    refine (retrieve_silent package _).andThen fun o s₁ => ?_
    have hattempt : (Resolution.report c.updated (.attemptedLookUpFile
        (Path.join [package, path ++ ending]) o.isSome)).Silent "LookedUpTypeFile" :=
      .report (by simp [Update.attemptedLookUpFile])
    refine hattempt.andThen fun _ s₂ => ?_
    cases o with
    | none => exact ih
    | some content =>
      refine (reportFile_pure package _ true (some (content, path ++ ending))).mono fun o us hus => ?_
      obtain ⟨rfl, hus⟩ := hus
      exact hus ▸ .found content (path ++ ending)

theorem inDirectory (package path : String) :
    (inDirectory c.updated package path).Emits s fun o us =>
      Sighted package o (about "LookedUpTypeFile" us) := by
  refine (retrieve_silent package _).andThen fun o s₁ => ?_
  cases o with
  | none => exact .pure .silent
  | some content =>
    refine (Silent.textOf content).andThen fun text s₂ => ?_
    refine (Silent.ofExcept _).andThen fun manifest s₃ => ?_
    cases manifest.types? with
    | none => exact .pure .silent
    | some types => exact exactly package _

/-- What is told of the file of an import, as it was looked up; `path` is where it was wanted. -/
inductive Reached (package path : String) : Option (Value × String) → List Update → Prop
  | found (content : Value) (at_ : String) :
      Reached package path (some (content, at_)) [.lookedUpTypeFile (Path.join [package, at_]) true]
  | missing : Reached package path none [.lookedUpTypeFile (Path.join [package, path]) false]

theorem Sighted.reached {us : List Update} {file : Value × String} (h : Sighted package (some file) us) :
    Reached package path (some file) us := by
  cases h with
  | found content at_ => exact .found content at_

theorem Sighted.eq_nil {us : List Update} (h : Sighted package none us) : us = [] := by
  cases h
  rfl

theorem reportFile_missing (package path : String) :
    (do reportFile c.updated package path false; return none : Walk (Updated ε) _).Emits s fun o us =>
      Reached package path o (about "LookedUpTypeFile" us) := by
  refine (reportFile_pure package path false none).mono fun o us hus => ?_
  obtain ⟨rfl, hus⟩ := hus
  exact hus ▸ .missing

/-- A file that was not found directly is looked for by the manifest of the directory. -/
theorem orInDirectory (package path : String) {o : Option (Value × String)} {told : List Update}
    (h : Sighted package o told) :
    (orInDirectory c.updated package path o).Emits s fun o us =>
      Reached package path o (about "LookedUpTypeFile" us ++ told) := by
  cases o with
  | some file => exact .pure h.reached
  | none =>
    rw [h.eq_nil]
    refine (inDirectory package path).bind fun o us s₁ hus => ?_
    cases o with
    | some file =>
      refine .pure ?_
      rw [List.nil_append, List.append_nil]
      exact hus.reached
    | none =>
      refine (reportFile_missing package path).mono fun o us' hus' => ?_
      rw [about_append, hus.eq_nil, List.append_nil, List.append_nil]
      exact hus'

theorem sourceFile (w : Wanted) :
    (sourceFile c.updated w).Emits s fun o us =>
      Reached w.package (filePath w) o (about "LookedUpTypeFile" us) := by
  rw [sourceFile_eq]
  have hrest : ∀ o us s₁, Sighted w.package o (about "LookedUpTypeFile" us) →
      (Resolution.orInDirectory c.updated w.package (filePath w) o).Emits s₁ fun o us' =>
        Reached w.package (filePath w) o (about "LookedUpTypeFile" (us' ++ us)) := fun o us s₁ ho => by
    refine (orInDirectory w.package (filePath w) ho).mono fun o us' hus' => ?_
    rw [about_append]
    exact hus'
  split
  · exact reportFile_missing w.package (filePath w)
  · split
    · exact (exactly w.package (filePath w)).bind hrest
    · exact (firstOf w.package (filePath w) extensions).bind hrest

end Updates

/-! ## Lookups -/

theorem Walk.Emits.told {w : Walk (Updated ε) α} {P : α → List Update → Prop} {s : Scene ε}
    (h : w.Emits s.updated P) (hu : s.options.handlers.updates = true) {play : Play ε} {a : α}
    {updates : List Update} (ht : w.told s play = (.ok a, updates)) : P a updates.reverse := by
  obtain ⟨hends, -⟩ := (h.ends hu).finish (Updates.follows play)
  obtain ⟨hresult, hupdates⟩ := Prod.mk.inj ht
  obtain ⟨us, heq, hp⟩ := hends.2 a hresult
  have hus : us = updates.reverse := by
    rw [← hupdates, List.reverse_reverse, heq]
    exact (List.append_nil us).symm
  exact hus ▸ hp

theorem about_of_reverse {type : String} {updates : List Update} {u : Update}
    (h : about type updates.reverse = [u]) : about type updates = [u] := by
  have hreverse := congrArg List.reverse h
  rw [about, List.filter_reverse, List.reverse_reverse] at hreverse
  exact hreverse

/-- Let the handler for updates be installed. A lookup of a package that comes to an end has told of
packages once: of the package that supplies the entry, and whether it is the one that declares types for
others, or else that there is none. A lookup of a file that comes to an end has told of files once: of the
file that was found, or else that there is none. And a fetch that comes to an end has told of the key of
the file if there is one, and nothing otherwise. -/
theorem lookups_told (c : Collaborators ε) {s : Scene ε} (hu : s.options.handlers.updates = true)
    (play : Play ε) :
    (∀ package subPath o updates,
      (packageEntry c.updated package subPath).told s play = (.ok o, updates) →
        match o with
        | some w => (w.package = package ∨ w.package = Package.definitelyTyped package) ∧
            about "LookedUpPackage" updates = [.lookedUpPackage w.package
              (w.package = Package.definitelyTyped package) true]
        | none => about "LookedUpPackage" updates = [.lookedUpPackage package false false]) ∧
    (∀ w o updates, (sourceFile c.updated w).told s play = (.ok o, updates) →
      match o with
      | some (_, path) => about "LookedUpTypeFile" updates =
          [.lookedUpTypeFile (Path.join [w.package, path]) true]
      | none => about "LookedUpTypeFile" updates =
          [.lookedUpTypeFile (Path.join [w.package, filePath w]) false]) ∧
    (∀ package path o updates, (retrieve c.updated package path).told s play = (.ok o, updates) →
      let key := Package.fileKey package (s.pins.version? package) path
      match o with
      | some _ => ∃ held, (c.cached key s.env).1 = .ok held ∧
          updates = [if held.isSome then .loadedFromCache key else .storedToCache key]
      | none => updates = []) := by
  refine ⟨fun package subPath o updates ht => ?_, fun w o updates ht => ?_,
    fun package path o updates ht => ?_⟩
  · have hentered := (Updates.packageEntry package subPath).told hu ht
    generalize hus : about "LookedUpPackage" updates.reverse = us at hentered
    cases hentered with
    | @own w h =>
      have hne : package ≠ Package.definitelyTyped package := (Package.definitelyTyped_ne package).symm
      exact ⟨.inl h, about_of_reverse (hus.trans (by simp [hne, h]))⟩
    | @typed w h => exact ⟨.inr h, about_of_reverse (hus.trans (by simp [h]))⟩
    | missing => exact about_of_reverse hus
  · have hreached := (Updates.sourceFile w).told hu ht
    generalize hus : about "LookedUpTypeFile" updates.reverse = us at hreached
    cases hreached with
    | found content path => exact about_of_reverse hus
    | missing => exact about_of_reverse hus
  · obtain ⟨held, hheld, hfetched⟩ := (Updates.retrieve c s.updated package path).told hu ht
    generalize hus : updates.reverse = us at hfetched
    cases hfetched with
    | loaded value => exact ⟨_, hheld, List.reverse_eq_iff.mp hus⟩
    | stored text => exact ⟨_, hheld, List.reverse_eq_iff.mp hus⟩
    | missing => exact List.reverse_eq_iff.mp hus

/-! ## An example -/

namespace Declared

/-- A package without types of its own, and the one that declares them. -/
def packages : Request → Option String := fun r =>
  if r.package = "q" then Play.files "q" [("package.json", "\x7b\x7d")] r
  else Play.files "@types/q" [
    ("package.json", "\x7b\"types\":\"index.d.ts\"\x7d"), ("index.d.ts", "")] r

def start : Scene Workspace := atFirst { handlers := { updates := true } }

def entry : Except Fault (Option Wanted) × List Update :=
  (packageEntry inMemory.updated "q" "").told start (.answering packages)

def file : Except Fault (Option (Value × String)) × List Update :=
  (sourceFile inMemory.updated ⟨"@types/q", "", "index"⟩).told start (.answering packages)

def absent : Except Fault (Option Value) × List Update :=
  (retrieve inMemory.updated "q" "index.d.ts").told start (.answering packages)

theorem found :
    entry.1.toOption = some (some ⟨"@types/q", "", "index.d.ts"⟩) ∧
      (file.1.toOption.map fun o => o.map Prod.snd) = some (some "index.d.ts") ∧
        absent.1.toOption.map Option.isSome = some false := by decide +kernel

/-- Each of the lookups has told of its end. -/
theorem found_told :
    start.options.handlers.updates = true ∧
    about "LookedUpPackage" entry.2 = [.lookedUpPackage "@types/q" true true] ∧
    about "LookedUpTypeFile" file.2 = [.lookedUpTypeFile (Path.join ["@types/q", "index.d.ts"]) true] ∧
    absent.2 = [] := by
  obtain ⟨hentry, hfile, habsent⟩ := found
  have hu : start.options.handlers.updates = true := rfl
  obtain ⟨htold, hreached, hfetched⟩ := lookups_told inMemory hu (.answering packages)
  unfold entry file absent at *
  refine ⟨hu, ?_, ?_, ?_⟩
  · generalize hrun : Walk.told _ _ _ = run at hentry
    obtain ⟨_ | o, updates⟩ := run
    · cases hentry
    · cases hentry
      have hq : "@types/q" = Package.definitelyTyped "q" := by decide +kernel
      have hupdates := (htold "q" "" _ updates hrun).2
      rwa [decide_eq_true hq] at hupdates
  · generalize hrun : Walk.told _ _ _ = run at hfile
    obtain ⟨_ | _ | ⟨content, path⟩, updates⟩ := run
    · cases hfile
    · cases hfile
    · cases hfile
      exact hreached _ _ updates hrun
  · generalize hrun : Walk.told _ _ _ = run at habsent
    obtain ⟨_ | _ | value, updates⟩ := run
    · cases habsent
    · exact hfetched "q" "index.d.ts" _ updates hrun
    · cases habsent

end Declared

end DeclarationFetch.Resolution
