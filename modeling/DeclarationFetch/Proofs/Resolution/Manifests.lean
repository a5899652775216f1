import DeclarationFetch.Proofs.Resolution.Retention
import DeclarationFetch.Proofs.Resolution.Settlement

/-! # Manifests of imported packages

A package import of a pass whose manifest names an entry of the package: looking the import up puts that
manifest into the host.

* `Declares package o`: what was found is the text of a manifest that names an entry.
* `PackageImport`: such an import, with versions that packages may have in the pass.
* `Arises`, `PackageImport.Shadowed`: what comes up in a pass, and that something of it has a key of the
  import.
* `PackageImport.Fair log`: nothing has failed so far, and what the cache has had for the manifest names
  an entry.
* `PackageImport.packageEntry_hosts`: in a fair pass the lookup puts the manifest into the host.
-/

namespace DeclarationFetch.Resolution

variable {ε : Type} {c : Collaborators ε} {fit : Watched ε → Prop} {has : String → Watched ε → Prop}

/-! ## What is imported -/

/-- What was found is the text of a manifest that names an entry of the package. -/
def Declares (package : String) (o : Option Value) : Prop :=
  ∃ text manifest entry, o = some (.text text) ∧ Manifest.read package text = .ok manifest ∧
    manifest.entry? = some entry

theorem not_declares_none {package : String} : ¬ Declares package none :=
  fun ⟨_, _, _, h, _⟩ => nomatch h

/-- Where `typings` is not set, a manifest with a text for `types` names that as the entry. -/
theorem declares_of_types {package text types : String} {manifest : Manifest}
    (hm : Manifest.read package text = .ok manifest) (hunset : (manifest.field "typings").isSet = false)
    (htypes : manifest.types? = some types) : Declares package (some (.text text)) := by
  refine ⟨text, manifest, types, rfl, hm, ?_⟩
  simp only [Manifest.entry?, hunset]
  exact htypes

theorem EntryIn.ne_none {package directory subPath : String} {content : Value} {o : Option Wanted}
    (h : EntryIn package directory subPath content o) (hd : Declares package (some content)) :
    o ≠ none := by
  obtain ⟨text, manifest, entry, ht, hm, he⟩ := hd
  cases ht
  cases h with
  | silent hm' he' =>
    cases hm.symm.trans hm'
    cases he.symm.trans he'
  | named => exact nofun

/-- The package imports that come up behind some dependencies: those among them, with preloading the
package as a whole for a path in it, and the imports of files that were expanded with a crossing left. -/
inductive Arises (preload : Bool) (rs : List Resource) (history : List Milestone) : String → String → Prop
  | listed {package subPath : String} (h : .package package subPath ∈ rs) :
      Arises preload rs history package subPath
  | root {package subPath : String} (hp : preload = true) (h : Arises preload rs history package subPath) :
      Arises preload rs history package ""
  | imported {f : File} {version : Option String} {budget : Remaining} {package subPath : String}
      (hm : .expanded f.package version f.path f.text budget ∈ history)
      (hi : f.Imports (.package package subPath)) (hb : budget.crossings ≠ 0) :
      Arises preload rs history package subPath

theorem Arises.mono {preload : Bool} {rs rs' : List Resource} {history history' : List Milestone}
    {package subPath : String} (hrs : ∀ r ∈ rs, r ∈ rs') (hh : ∀ m ∈ history, m ∈ history')
    (h : Arises preload rs history package subPath) : Arises preload rs' history' package subPath := by
  induction h with
  | listed h => exact .listed (hrs _ h)
  | root hp _ ih => exact .root hp ih
  | imported hm hi hb => exact .imported (hh _ hm) hi hb

/-- A package import of a pass with these options, and the versions that packages may have in it. -/
structure PackageImport where
  options : Options
  package : String
  subPath : String
  versions : String → Option String → Prop

namespace PackageImport

variable (t : PackageImport)

def resource : Resource := .package t.package t.subPath

def manifest : String := Path.join [t.subPath, "package.json"]

def place : String := Package.hostPath t.package t.manifest

def Admits (pins : Pins) : Prop := ∀ package, t.versions package (pins.version? package)

/-- Something else has a key of the import: another package import that has come up, or a file that was
entered. -/
inductive Shadowed (rs : List Resource) (history : List Milestone) : Prop
  | package {package subPath : String} {version version' : Option String}
      (ha : Arises t.options.preloadPackages rs history package subPath)
      (hne : .package package subPath ≠ t.resource) (hv : t.versions package version)
      (hv' : t.versions t.package version')
      (hk : (Resource.package package subPath).key version = t.resource.key version')
  | file {w : Wanted} {version version' : Option String} (hm : .entered w ∈ history)
      (hv : t.versions w.package version) (hv' : t.versions t.package version')
      (hk : w.resource.key version = t.resource.key version')

/-- Nothing has failed, what the cache has had for the manifest names an entry, and packages may have the
versions that their manifests name. -/
structure Fair (log : List Observation) : Prop where
  smooth : ∀ message, .failed message ∉ log
  cached : ∀ version value, t.versions t.package version →
    .cached (Package.fileKey t.package version t.manifest) (.ok (some value)) ∈ log →
      Declares t.package (some value)
  named : ∀ package directory text manifest version,
    Seen log package (Path.join [directory, "package.json"]) (some (.text text)) →
      Manifest.read package text = .ok manifest → manifest.version? = some version →
        t.versions package (some version)

/-- If the manifest is asked for, then the source of packages answers with one that names an entry. -/
def Served (request : Request) (answer : Answer) : Prop :=
  request.package = t.package → request.path = t.manifest →
    ∀ o, answer = .ok o → Declares t.package (o.map .text)

variable {t} {rs rs' : List Resource} {history history' : List Milestone}

theorem Shadowed.mono (hrs : ∀ r ∈ rs, r ∈ rs') (hh : ∀ m ∈ history, m ∈ history')
    (h : t.Shadowed rs history) : t.Shadowed rs' history' := by
  cases h with
  | package ha hne hv hv' hk => exact .package (ha.mono hrs hh) hne hv hv' hk
  | file hm hv hv' hk => exact .file (hh _ hm) hv hv' hk

theorem Fair.of_subset {log log' : List Observation} (hl : ∀ o ∈ log, o ∈ log') (h : t.Fair log') :
    t.Fair log where
  smooth message hm := h.smooth message (hl _ hm)
  cached version value hv hm := h.cached version value hv (hl _ hm)
  named package directory text manifest version hs :=
    h.named package directory text manifest version (hs.mono hl)

/-! ## The regime of lookups -/

structure Sound (t : PackageImport) (fit : Watched ε → Prop) (s : Scene (Watched ε)) : Prop where
  options : s.options = t.options
  fit : fit s.env
  admits : t.Fair s.env.log → t.Admits s.pins

open Coverage (Frame Later)

variable {s s' s'' : Scene (Watched ε)}

theorem Sound.of_log (h : t.Sound fit s) (ho : s'.options = s.options)
    (hr : Retained fit has s.env s'.env) (hl : ∀ o ∈ s.env.log, o ∈ s'.env.log)
    (hp : t.Fair s'.env.log → t.Admits s.pins → t.Admits s'.pins) : t.Sound fit s' where
  options := ho.trans h.options
  fit := hr.fit h.fit
  admits hf := hp hf (h.admits (hf.of_subset hl))

/-- A lookup leaves the marks and the history as they are, and the host keeps its files. -/
structure Kept (t : PackageImport) (fit : Watched ε → Prop) (has : String → Watched ε → Prop)
    (s s' : Scene (Watched ε)) : Prop where
  frame : Frame s s'
  retained : Retained fit has s.env s'.env
  sound : t.Sound fit s → t.Sound fit s'

theorem Kept.of_pins (hf : Frame s s') (hr : Retained fit has s.env s'.env)
    (hp : s'.pins = s.pins) : t.Kept fit has s s' :=
  ⟨hf, hr, fun h => h.of_log hf.options hr hf.log fun _ ha => hp ▸ ha⟩

theorem Kept.act (hr : Retained fit has s.env s'.env) (ho : s'.options = s.options)
    (hp : s'.pins = s.pins) (hc : s'.context = s.context) (hl : ∀ o ∈ s.env.log, o ∈ s'.env.log) :
    t.Kept fit has s s' :=
  .of_pins ⟨ho, hc ▸ rfl, hc ▸ rfl, hl⟩ hr hp

def lookups (t : PackageImport) (fit : Watched ε → Prop) (has : String → Watched ε → Prop) :
    Regime (Watched ε) where
  asks _ _ := True
  answers request s answer s' :=
    s'.env.log = .answered request answer :: s.env.log ∧ s'.context = s.context ∧
      s'.options = s.options ∧ Retained fit has s.env s'.env ∧
        (t.Admits s.pins → t.Admits s'.pins) ∧ t.Served request answer
  valid := t.Sound fit
  since := t.Kept fit has
  refl s := ⟨.refl s, .refl _, id⟩
  trans h h' := ⟨h.frame.trans h'.frame, h.retained.trans h'.retained, fun hs => h'.sound (h.sound hs)⟩
  valid_of_since h := h.sound

/-- What a pass has found, and what the manifest is if the pass is fair. -/
def found (t : PackageImport) (s : Scene (Watched ε)) : Findings := fun package path o =>
  Seen s.env.log package path o ∧
    (package = t.package → path = t.manifest → t.Fair s.env.log → Declares t.package o)

theorem found_of_log (hl : ∀ o ∈ s.env.log, o ∈ s'.env.log) {package path : String} {o : Option Value}
    (h : t.found s package path o) : t.found s' package path o :=
  ⟨h.1.mono hl, fun hp hm hf => h.2 hp hm (hf.of_subset hl)⟩

theorem admits_insert {pins : Pins} {package version : String} (h : t.Admits pins)
    (hv : t.versions package (some version)) (hne : version ≠ "") :
    t.Admits (pins.insert package (.text version)) := by
  intro other
  by_cases ho : package = other
  · subst ho
    rwa [Pins.version?_of_agrees (Pins.agrees_insert ..) hne]
  · have hother := h other
    unfold Pins.version? Pins.pin at hother ⊢
    rwa [Assoc.get?_insert, if_neg ho]

def account (hc : Retains c.watched fit has) (t : PackageImport) : Account c.watched where
  toRegime := t.lookups fit has
  found := t.found
  pursued _ _ := True
  found_of_since hs := found_of_log hs.frame.log
  pursued_of_since _ _ := trivial
  reported {s} u _ := .act (hc.onUpdate u s.env) rfl rfl rfl fun _ => id
  cached {s package path} hv _ := by
    refine ⟨.act (hc.cached _ s.env) rfl rfl rfl fun _ => List.mem_cons_of_mem _, fun value h => ?_⟩
    have hm := c.mem_log_cached h
    refine ⟨.cached hm, ?_⟩
    rintro rfl rfl hf
    exact hf.cached _ value (hv.admits (hf.of_subset fun _ => List.mem_cons_of_mem _) _) hm
  asked _ _ _ := trivial
  answered {s₀ s s' package path answer} _ _ h := by
    obtain ⟨hl, hcontext, hoptions, hr, hp, hserved⟩ := h
    have hlog : ∀ o ∈ s.env.log, o ∈ s'.env.log := fun o ho => hl ▸ List.mem_cons_of_mem _ ho
    have hframe : Frame s s' := ⟨hoptions, hcontext ▸ rfl, hcontext ▸ rfl, hlog⟩
    refine ⟨⟨hframe, hr, fun hs => hs.of_log hoptions hr hlog fun _ => hp⟩, fun o ho => ?_⟩
    have hm : Observation.answered ⟨package, path, s₀.pins.pin package⟩ (.ok o) ∈ s'.env.log :=
      hl ▸ ho ▸ List.mem_cons_self ..
    exact ⟨.answered hm, fun hpackage hpath _ => hserved hpackage hpath o ho⟩
  stored {_ s _ _ _} _ _ _ := .act (hc.store _ _ s.env) rfl rfl rfl fun _ => id
  sought {s} key _ := .act (hc.isCached key s.env) rfl rfl rfl fun _ => id
  injected _ _ _ hi :=
    .of_pins ⟨hi.options_eq, hi.resolved_eq, hi.history_eq, hi.log_subset⟩ (hc.injected hi) hi.pins_eq
  pinned {s package directory text manifest entry version} _ _ _ hf hm _ hver _ := by
    have hr : Retained fit has s.env s.env := .refl _
    refine Regime.since_repinned _ ⟨⟨rfl, rfl, rfl, fun _ => id⟩, hr, fun hs => ?_⟩
      (.act (hc.onVersions _ s.env) rfl rfl rfl fun _ => id)
    refine hs.of_log rfl hr (fun _ => id) fun hfair ha => ?_
    exact admits_insert ha (hfair.named _ _ _ _ _ hf.1 hm hver) (Manifest.version?_ne_empty hver)
  looked {s _ _} _ _ := .act (hc.hosted _ s.env) rfl rfl rfl fun _ => List.mem_cons_of_mem _
  readied {s _ _} _ _ := .act (hc.makeRoom _ s.env) rfl rfl rfl fun _ => List.mem_cons_of_mem _
  failed {s} message _ := .act (hc.onError message s.env) rfl rfl rfl fun _ => List.mem_cons_of_mem _

/-! ## The manifest -/

section Lookups

variable (hc : Retains c.watched fit has)
include hc

theorem inject_hosts {package path text : String} (hr : Route (t.found s) (fun _ => True) package path)
    (hf : t.found s package path (some (.text text))) :
    (inject c.watched (Package.hostPath package path) text).Ensures (t.lookups fit has) s
      fun _ s' => has (Package.hostPath package path) s'.env := by
  obtain ⟨result, s', he, hi⟩ := inject_eq_done (c := c.watched) (Package.hostPath package path) text s
  refine .of_valid fun hv => .of_eq_done he (fun _ => (account hc t).injected hv hr hf hi) fun _ hok _ _ => ?_
  exact hc.has_of_injected hv.fit hi hok

/-- In a fair pass the manifest of the import is found, and goes into the host. -/
theorem ownOrTypedEntry_hosts :
    (ownOrTypedEntry c.watched t.package t.subPath).Ensures (t.lookups fit has) s
      fun _ s' => t.Fair s'.env.log → has t.place s'.env := by
  let A := account hc t
  refine .bind (A.manifestFor trivial) fun o s₁ _ hs₁ ho => ?_
  have hown : t.Fair s₁.env.log →
      ∃ content, o = some (content, t.subPath) ∧ Declares t.package (some content) := fun hf => by
    cases ho with
    | own h => exact ⟨_, rfl, h.2 rfl rfl hf⟩
    | absent h => exact absurd (h.2 rfl rfl hf) not_declares_none
    | root h => exact absurd (h.2 rfl rfl hf) not_declares_none
  match o, ho with
  | none, _ =>
    refine .pure fun hf => ?_
    obtain ⟨_, h, _⟩ := hown hf
    cases h
  | some (content, directory), ho =>
    let P : Scene (Watched ε) → Prop := fun s' =>
      has (Package.hostPath t.package (Path.join [directory, "package.json"])) s'.env
    refine .bind (A.manifestEntry_injecting (P := P) (fun hs => hs.retained.has _) (ho.route trivial)
      (.inr trivial) ho.found_content ?_) fun o s₂ _ hs₂ he => ?_
    · rintro text s₂ hs₂ rfl
      exact inject_hosts hc (A.route_of_since hs₂ (ho.route trivial))
        (A.found_of_since hs₂ ho.found_content)
    · cases o with
      | some w =>
        refine .pure fun hf => ?_
        obtain ⟨_, heq, _⟩ := hown (hf.of_subset hs₂.frame.log)
        cases heq
        exact he.2 nofun
      | none =>
        refine (A.typedEntry trivial).mono fun _ s₃ _ hs₃ _ hf => ?_
        obtain ⟨_, heq, hd⟩ := hown ((hf.of_subset hs₃.frame.log).of_subset hs₂.frame.log)
        cases heq
        exact absurd rfl (he.1.ne_none hd)

theorem packageEntry_hosts (hopen : t.options.onlySpecifiedPackages = false) :
    (packageEntry c.watched t.package t.subPath).Ensures (t.lookups fit has) s
      fun _ s' => t.Fair s'.env.log → has t.place s'.env := by
  refine .of_valid fun hv => .read ?_
  dsimp only
  rw [hv.options, hopen, Bool.false_and, if_neg Bool.false_ne_true]
  refine .bind (ownOrTypedEntry_hosts hc) fun o s₁ _ _ h₁ => ?_
  split
  · refine .bind ((account hc t).report _) fun _ s₂ _ hs₂ _ => .pure fun hf => ?_
    exact hs₂.retained.has _ (h₁ (hf.of_subset hs₂.frame.log))
  · exact .pure h₁

end Lookups

end PackageImport

end DeclarationFetch.Resolution
