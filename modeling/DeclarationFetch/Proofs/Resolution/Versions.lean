import DeclarationFetch.Proofs.Resolution.Stops

/-! # One version for each package

A package is asked for at the version that was recorded for it. Which one that is, the manifests decide
that the pass goes by.

* `Consulted source parent history package directory`: the entry of a package may be looked up in the
  manifest of a directory.
* `VersionNamed`: a manifest that was found in such a directory names an entry and a version.
* `Topic`: a package in a pass, with the version that its manifests are to name.
* `Topic.Since`: the pin of the package stays, or becomes that version.
* `pass_one_version`: once a version was recorded for a package it stays, and each later request for a file
  of the package is made with it.
-/

namespace DeclarationFetch.Resolution

variable {ε : Type} {c : Collaborators ε} {source : String} {parent : Parent}

/-! ## Manifests that a pass goes by -/

/-- The directories in whose manifests the entry of a package may be looked up: the package itself, and
what the source text or an expanded file imports from it. -/
inductive Consulted (source : String) (parent : Parent) (history : List Milestone) (package : String) :
    String → Prop
  | root : Consulted source parent history package ""
  | imported {rs : List Resource} {directory : String} (h : Specifier.dependencies source parent = .ok rs)
      (hr : .package package directory ∈ rs) : Consulted source parent history package directory
  | expanded {f : File} {version : Option String} {budget : Remaining} {directory : String}
      (hm : .expanded f.package version f.path f.text budget ∈ history)
      (hi : f.Imports (.package package directory)) : Consulted source parent history package directory

theorem Consulted.mono {history history' : List Milestone} {package directory : String}
    (hl : history ⊆ history') (h : Consulted source parent history package directory) :
    Consulted source parent history' package directory := by
  cases h with
  | root => exact .root
  | imported h hr => exact .imported h hr
  | expanded hm hi => exact .expanded (hl hm) hi

theorem Consulted.of_first {options : Options} {pins : Pins} {history : List Milestone}
    {package directory : String} (h : First options pins source parent (.package package directory)) :
    Consulted source parent history package directory := by
  cases h with
  | preloaded => exact .root
  | imported h hr => exact .imported h hr

/-- The cache or the source has returned a manifest that names an entry of the package and a version, and
the pass may go by it. -/
inductive VersionNamed (source : String) (parent : Parent) (s : Scene (Watched ε))
    (package version : String) : Prop
  | intro {directory text entry : String} {manifest : Manifest}
      (hd : Consulted source parent s.context.history package directory)
      (hs : Seen s.env.log package (Path.join [directory, "package.json"]) (some (.text text)))
      (hm : Manifest.read package text = .ok manifest) (he : manifest.entry? = some entry)
      (hv : manifest.version? = some version)

theorem VersionNamed.mono {s s' : Scene (Watched ε)} {package version : String}
    (hh : s.context.history ⊆ s'.context.history) (hl : s.env.log ⊆ s'.env.log)
    (h : VersionNamed source parent s package version) :
    VersionNamed source parent s' package version := by
  obtain ⟨hd, hs, hm, he, hv⟩ := h
  exact ⟨hd.mono hh, hs.mono hl, hm, he, hv⟩

/-- Others pin the package to this version, if they pin it to anything new. -/
def Play.PinsOnly (play : Play ε) (package version : String) : Prop :=
  ∀ n request s, (play.pins n request s).pin package = s.pins.pin package ∨
    (play.pins n request s).pin package = .text version

theorem Play.KeepsPins.pinsOnly {play : Play ε} (h : play.KeepsPins) (package version : String) :
    play.PinsOnly package version := fun n request s => .inl (by rw [h n request s])

/-! ## The policy -/

/-- A package in a pass over a source text, with the version that its manifests are to name. -/
structure Topic where
  source : String
  parent : Parent
  package : String
  version : String

namespace Topic

variable (t : Topic)

/-- Manifests that the pass may go by name no other version. -/
def Agreed (s : Scene (Watched ε)) : Prop :=
  ∀ version, VersionNamed t.source t.parent s t.package version → version = t.version

/-- More was done, and the pin of the package is what it was or the version of the manifests. -/
structure Since (s s' : Scene (Watched ε)) : Prop where
  history : s.context.history ⊆ s'.context.history
  log : s.env.log ⊆ s'.env.log
  pin : t.Agreed s' →
    s'.pins.pin t.package = s.pins.pin t.package ∨ s'.pins.pin t.package = .text t.version

variable {t} {s s' s'' : Scene (Watched ε)}

theorem Agreed.of_later (hh : s.context.history ⊆ s'.context.history) (hl : s.env.log ⊆ s'.env.log)
    (h : t.Agreed s') : t.Agreed s := fun version hv => h version (hv.mono hh hl)

theorem Since.of_pins (hh : s.context.history ⊆ s'.context.history) (hl : s.env.log ⊆ s'.env.log)
    (hp : s'.pins = s.pins) : t.Since s s' := ⟨hh, hl, fun _ => .inl (by rw [hp])⟩

theorem Since.act {e : Watched ε} (hl : s.env.log ⊆ e.log) : t.Since s { s with env := e } :=
  .of_pins (List.Subset.refl _) hl rfl

theorem Since.record (s : Scene (Watched ε)) (m : Milestone) :
    t.Since s { s with context := s.context.record m } :=
  .of_pins (List.subset_cons_self ..) (List.Subset.refl _) rfl

theorem Since.trans (h : t.Since s s') (h' : t.Since s' s'') : t.Since s s'' where
  history := List.Subset.trans h.history h'.history
  log := List.Subset.trans h.log h'.log
  pin ha := by
    rcases h'.pin ha with heq | heq
    · rw [heq]
      exact h.pin (ha.of_later h'.history h'.log)
    · exact .inr heq

variable (t)

/-- Where the package is imported from a directory, the manifest of that directory may be consulted. -/
def Pursues (s : Scene (Watched ε)) (r : Resource) : Prop :=
  ∀ package directory, r = .package package directory →
    Consulted t.source t.parent s.context.history package directory

variable {t} in
theorem Pursues.mono {r : Resource} (hh : s.context.history ⊆ s'.context.history) (h : t.Pursues s r) :
    t.Pursues s' r := fun package directory hr => (h package directory hr).mono hh

def regime (ε : Type) : Regime (Watched ε) where
  asks _ _ := True
  answers request s answer s' := s'.context.history = s.context.history ∧
    s'.env.log = .answered request answer :: s.env.log ∧
      (s'.pins.pin t.package = s.pins.pin t.package ∨ s'.pins.pin t.package = .text t.version)
  valid _ := True
  since := t.Since
  refl _ := .of_pins (List.Subset.refl _) (List.Subset.refl _) rfl
  trans := Since.trans
  valid_of_since _ _ := trivial

theorem follows {play : Play ε} (h : play.PinsOnly t.package t.version) :
    play.watched.Follows (t.regime ε) := fun n request s _ => ⟨rfl, rfl, h n request s.unwatched⟩

def account (c : Collaborators ε) : Account c.watched where
  toRegime := t.regime ε
  found s := Seen s.env.log
  pursued := t.Pursues
  found_of_since hs h := h.mono hs.log
  pursued_of_since hs h := h.mono hs.history
  reported _ _ := .act (List.Subset.refl _)
  cached _ _ := ⟨.act (List.subset_cons_self ..), fun _ h => .cached (c.mem_log_cached h)⟩
  asked _ _ _ := trivial
  answered {s₀ s s' package path answer} _ _ h := by
    obtain ⟨hh, hl, hp⟩ := h
    refine ⟨⟨hh ▸ List.Subset.refl _, hl ▸ List.subset_cons_self .., fun _ => hp⟩, ?_⟩
    rintro o rfl
    exact .answered (hl ▸ List.mem_cons_self ..)
  stored _ _ _ := .act (List.Subset.refl _)
  sought _ _ := .act (List.Subset.refl _)
  injected _ _ _ hi := .of_pins (hi.history_eq ▸ List.Subset.refl _) hi.log_subset hi.pins_eq
  pinned {s package directory text manifest entry version} _ _ hd hf hm he hver _ := by
    refine Regime.since_repinned _ ⟨List.Subset.refl _, List.Subset.refl _, fun ha => ?_⟩
      (.act (List.Subset.refl _))
    have hdirectory : Consulted t.source t.parent s.context.history package directory := by
      rcases hd with rfl | hd
      · exact .root
      · exact hd package directory rfl
    unfold Pins.pin
    rw [Assoc.get?_insert]
    split
    · next heq =>
      subst heq
      have hversion : version = t.version := ha version ⟨hdirectory, hf, hm, he, hver⟩
      exact .inr (by rw [hversion]; rfl)
    · exact .inl rfl
  looked _ _ := .act (List.subset_cons_self ..)
  readied _ _ := .act (List.subset_cons_self ..)
  failed _ _ := .act (List.subset_cons_self ..)

/-- Every dependency may be taken up that leads to manifests which may be consulted. -/
def policy (c : Collaborators ε) (fileSteps : Nat) : Policy c.watched fileSteps where
  toAccount := t.account c
  takes _ _ r s := t.Pursues s r
  opens _ _ r s := t.Pursues s r
  parses _ _ f s := ∃ version budget, .expanded f.package version f.path f.text budget ∈ s.context.history
  takes_of_since hs h := h.mono hs.history
  opens_of_since hs h := h.mono hs.history
  parses_of_since := fun hs ⟨version, budget, hm⟩ => ⟨version, budget, hs.history hm⟩
  pursued_of_takes := id
  pursued_of_opens := id
  marked key _ := .of_pins (Context.history_mark .. ▸ List.Subset.refl _) (List.Subset.refl _) rfl
  root _ _ _ := by
    rintro package directory ⟨⟩
    exact .root
  entered _ h hn := ⟨trivial, h.mono (List.subset_cons_self ..), hn⟩
  left {s s' w} _ _ hs := (Since.record s _).trans (hs.trans (.record s' _))
  expanded {a b r f s s' version result} _ _ _ _ hi := by
    have hm : .expanded f.package version f.path f.text ⟨a, b⟩ ∈ s'.context.history :=
      hi.history_eq ▸ List.mem_cons_self ..
    exact ⟨.of_pins (hi.history_eq ▸ List.subset_cons_self ..) hi.log_subset hi.pins_eq, version, _, hm⟩
  crosses := fun ⟨_, _, hm⟩ hi _ => by
    rintro package directory rfl
    exact .expanded hm hi
  stays := fun _ _ hs => by
    rintro package directory rfl
    cases hs

end Topic

/-! ## Passes -/

/-- Let others pin a package to `w` only, and let every manifest that names an entry of the package, and
that the cache or the source has returned for the package itself or for a directory of it that something
imports, name no version but `w`. Then what a pass has recorded for the package, at whatever stop, is `w`,
and from there on `w` stays recorded, and each file of the package is asked for at version `w`. -/
theorem pass_one_version (c : Collaborators ε) (source : String) (parent : Parent) (budget : Budget)
    (s : Scene ε) {play : Play ε} {package w : String} (hp : play.PinsOnly package w) {n m : Nat}
    (hnm : n ≤ m)
    (hw : ∀ version, VersionNamed source parent
      ((pass c.watched source parent budget s.watched).after play.watched m).scene package version →
        version = w) :
    let step k := (pass c.watched source parent budget s.watched).after play.watched k
    ((step n).scene.pins.pin package = s.pins.pin package ∨
        (step n).scene.pins.pin package = .text w) ∧
    ((step n).scene.pins.pin package = .text w →
      (step m).scene.pins.pin package = .text w ∧
      ∀ request, (step m).request? = some request → request.package = package →
        request.version = .text w) := by
  intro step
  let t : Topic := ⟨source, parent, package, w⟩
  have hsince {i j : Nat} (hij : i ≤ j) : t.Since { s.watched with context := {} } (step j).scene ∧
      t.Since (step i).scene (step j).scene :=
    (t.policy c budget.initialFileDepth.toNat).since_of_le
      .record source rfl
      (fun r _ hr _ _ => by rintro package directory rfl; exact .of_first hr)
      (fun r _ hr _ _ => by rintro package directory rfl; exact .of_first hr)
      trivial (t.follows hp) hij
  have hagreed : t.Agreed (step m).scene := hw
  have hlater := (hsince hnm).2
  refine ⟨(hsince (Nat.le_refl n)).1.pin (hagreed.of_later hlater.history hlater.log), fun hn => ?_⟩
  have hm : (step m).scene.pins.pin package = .text w := (hlater.pin hagreed).elim (·.trans hn) id
  refine ⟨hm, fun request hr hpackage => ?_⟩
  rw [pass_request_version c.watched source parent budget s.watched play.watched m hr, hpackage]
  exact hm

/-! ## Two directories of one package -/

def versionIn (package text : String) : Option String :=
  (Manifest.read package text).toOption.bind Manifest.version?

theorem versionIn_eq {package text version : String} {manifest : Manifest}
    (hm : Manifest.read package text = .ok manifest) (hv : manifest.version? = some version) :
    versionIn package text = some version := by
  unfold versionIn
  rw [hm]
  exact hv

def returned (log : List Observation) : List String := log.filterMap fun
  | .cached _ (.ok (some (.text text))) => some text
  | .answered _ (.ok (some text)) => some text
  | _ => none

theorem Seen.mem_returned {log : List Observation} {package path text : String}
    (h : Seen log package path (some (.text text))) : text ∈ returned log := by
  generalize ho : some (Value.text text) = o at h
  cases h with
  | cached h =>
    cases ho
    exact List.mem_filterMap.mpr ⟨_, h, rfl⟩
  | answered h =>
    obtain ⟨_, rfl, ht⟩ := Option.map_eq_some_iff.mp ho.symm
    cases ht
    exact List.mem_filterMap.mpr ⟨_, h, rfl⟩

/-- No manifest names another version if no text that was returned does. -/
theorem VersionNamed.eq_of_returned {s : Scene (Watched ε)} {package version w : String}
    (h : VersionNamed source parent s package version)
    (hw : (returned s.env.log).all fun text => (versionIn package text).all (· = w)) : version = w := by
  obtain ⟨-, hs, hm, -, hv⟩ := h
  have htext := List.all_eq_true.mp hw _ hs.mem_returned
  rw [versionIn_eq hm hv] at htext
  exact of_decide_eq_true htext

namespace Nested

def manifest (version : String) : String :=
  "\x7b\"types\":\"index.d.ts\",\"version\":\"" ++ version ++ "\"\x7d"

/-- A package with a directory that has a manifest of its own. -/
def packages (version : String) : Request → Option String := Play.files "p" [
  ("package.json", manifest "1.0.0"), ("index.d.ts", ""),
  ("sub/package.json", manifest version), ("sub/index.d.ts", "")]

def both : String := "require(\"p\"); require(\"p/sub\")"

def watchedStep (n : Nat) : Step (Watched Workspace) Unit :=
  (pass inMemory.watched both (.directory "/") ({} : Options).budget (atFirst {}).watched).after
    (Play.answering (packages "1.0.0")).watched n

/-- The version is recorded after the first answer, and the last file is still asked for with it. -/
theorem recorded_stays :
    (Play.answering (packages "1.0.0") : Play Workspace).PinsOnly "p" "1.0.0" ∧ 1 ≤ 3 ∧
    (∀ version, VersionNamed both (.directory "/") (watchedStep 3).scene "p" version →
      version = "1.0.0") ∧
    (watchedStep 1).scene.pins.pin "p" = .text "1.0.0" ∧
    ∃ request, (watchedStep 3).request? = some request ∧
      (request.package, request.path) = ("p", "sub/index.d.ts") ∧ request.version = .text "1.0.0" := by
  have hplay : (Play.answering (packages "1.0.0") : Play Workspace).PinsOnly "p" "1.0.0" :=
    (Play.keepsPins_answering _).pinsOnly _ _
  obtain ⟨hreturned, hasked⟩ : ((returned (watchedStep 3).scene.env.log).all fun text =>
      (versionIn "p" text).all (· = "1.0.0")) ∧
      (watchedStep 3).request?.map (fun r => (r.package, r.path)) = some ("p", "sub/index.d.ts") := by
    decide +kernel
  have hnamed : ∀ version, VersionNamed both (.directory "/") (watchedStep 3).scene "p" version →
      version = "1.0.0" := fun version h => h.eq_of_returned hreturned
  have hrecorded : (watchedStep 1).scene.pins.pin "p" = .text "1.0.0" :=
    Pins.pin_of_agrees (by decide +kernel)
  obtain ⟨request, hr, hfile⟩ := Option.map_eq_some_iff.mp hasked
  refine ⟨hplay, by decide, hnamed, hrecorded, request, hr, hfile, ?_⟩
  have hstays := (pass_one_version inMemory both (.directory "/") ({} : Options).budget (atFirst {}) hplay
    (by decide : 1 ≤ 3) hnamed).2 hrecorded
  exact hstays.2 request hr (Prod.mk.inj hfile).1

/-- The manifests that a source has at the root of a package name one version, whatever version of the
package they are asked for at. -/
def OneRelease (packages : Request → Option String) (package version : String) : Prop :=
  ∀ request text, request.package = package → request.path = "package.json" →
    packages request = some text → versionIn package text = some version

theorem oneRelease_files {package text version : String} {entries : List (String × String)}
    (hroot : entries.lookup "package.json" = some text) (hv : versionIn package text = some version)
    (other : String) : OneRelease (Play.files package entries) other version := by
  rintro request served rfl hpath h
  unfold Play.files at h
  split at h
  · next hp =>
    rw [hpath, hroot] at h
    cases h
    rw [hp, hv]
  · cases h

def flat : Request → Option String := Play.files "p" [
  ("package.json", manifest "1.0.0"), ("index.d.ts", ""), ("sub.d.ts", "")]

def stale : Scene Workspace :=
  { atFirst {} with
    env := ((atFirst {}).env.store (.memory 0) "p@1.0.0/package.json" (manifest "2.0.0")).2 }

def step (s : Scene Workspace) (source : Request → Option String) (n : Nat) : Step Workspace Unit :=
  (pass inMemory both (.directory "/") ({} : Options).budget s).after (.answering source) n

/-- The version that is recorded after the first answer, and what is asked for after so many. -/
def asked (s : Scene Workspace) (source : Request → Option String) (n : Nat) :
    Option String × Option (String × String × String) :=
  ((step s source 1).scene.pins.version? "p",
    (step s source n).request?.map fun r => (r.package, r.path, r.version.display))

/-- Files of one package are asked for at two versions, although its manifests at the root name one: the
manifest of the directory names another, or the cache has another manifest. -/
theorem recorded_replaced :
    (∀ package, OneRelease (packages "9.9.9") package "1.0.0") ∧
    (step (atFirst {}) (packages "9.9.9") 4).value? = some () ∧
    asked (atFirst {}) (packages "9.9.9") 3 = (some "1.0.0", some ("p", "sub/index.d.ts", "9.9.9")) ∧
    (∀ package, OneRelease flat package "1.0.0") ∧
    (step stale flat 4).value? = some () ∧
    asked stale flat 3 = (some "1.0.0", some ("p", "sub.d.ts", "2.0.0")) := by
  have hroot : versionIn "p" (manifest "1.0.0") = some "1.0.0" := by decide +kernel
  have hnested : (step (atFirst {}) (packages "9.9.9") 4).value? = some () ∧
      asked (atFirst {}) (packages "9.9.9") 3 =
        (some "1.0.0", some ("p", "sub/index.d.ts", "9.9.9")) := by decide +kernel
  have hstale : (step stale flat 4).value? = some () ∧
      asked stale flat 3 = (some "1.0.0", some ("p", "sub.d.ts", "2.0.0")) := by decide +kernel
  exact ⟨oneRelease_files rfl hroot, hnested.1, hnested.2, oneRelease_files rfl hroot, hstale⟩

end Nested

end DeclarationFetch.Resolution
