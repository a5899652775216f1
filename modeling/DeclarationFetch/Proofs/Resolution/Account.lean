import DeclarationFetch.Proofs.Resolution.Findings
import DeclarationFetch.Proofs.Resolution.Regime
import DeclarationFetch.Proofs.Specifier.Names
import DeclarationFetch.Resolution.Pass

/-! # Lookups with an account

A regime that keeps account of what a pass finds, with one law for each action of a collaborator, and
from these laws what each lookup comes to.

* `Injected`: the ways in which putting a file into the host can end.
* `Account c`: what was found so far, the dependencies that are pursued, and the laws.
* `Account.sourceFile` and `Account.packageEntry`: a lookup comes to what `FoundFile` and `FoundEntry`
  say of the findings at its end.
-/

namespace DeclarationFetch.Resolution

variable {ε α : Type} {c : Collaborators ε}

/-! ## Putting files into the host -/

/-- How the injection of a text ends. -/
inductive Injected (c : Collaborators ε) (path text : String) (s : Scene ε) :
    Except Fault Unit → Scene ε → Prop
  | unreadable {fault : Fault} (h : (c.hosted path s.env).1 = .error fault) :
      Injected c path text s (.error fault) { s with env := (c.hosted path s.env).2 }
  | present (h : (c.hosted path s.env).1 = .ok (some text)) :
      Injected c path text s (.ok ()) { s with env := (c.hosted path s.env).2 }
  | refused {held : Option String} {fault : Fault} (h : (c.hosted path s.env).1 = .ok held)
      (hf : (c.host path text (c.hosted path s.env).2).1 = .error fault) (hn : held ≠ some text) :
      Injected c path text s (.error fault)
        { s with env := (c.host path text (c.hosted path s.env).2).2 }
  | placed {held : Option String} (h : (c.hosted path s.env).1 = .ok held)
      (hf : (c.host path text (c.hosted path s.env).2).1 = .ok ()) (hn : held ≠ some text) :
      Injected c path text s (.ok ())
        { s with
          env := (c.host path text (c.hosted path s.env).2).2
          context := s.context.inject path }

theorem inject_eq_done (path text : String) (s : Scene ε) :
    ∃ result s', inject c path text s = .done result s' ∧ Injected c path text s result s' := by
  cases h : (c.hosted path s.env).1 with
  | error fault =>
    exact ⟨_, _, by simp [inject, Walk.act, bind, Walk.bind, Step.andThen, h], .unreadable h⟩
  | ok held =>
    by_cases hh : held = some text
    · subst hh
      exact ⟨_, _, by simp [inject, Walk.act, pure, Walk.pure, bind, Walk.bind, Step.andThen, h],
        .present h⟩
    · cases hf : (c.host path text (c.hosted path s.env).2).1 with
      | error fault =>
        exact ⟨_, _, by
          simp [inject, Walk.act, pure, bind, Walk.bind, Step.andThen, h, hh, hf],
          .refused h hf hh⟩
      | ok =>
        exact ⟨_, _, by
          simp [inject, Walk.act, Walk.change, pure, bind, Walk.bind, Step.andThen, h, hh, hf],
          .placed h hf hh⟩

namespace Injected

variable {path text : String} {s s' : Scene ε} {result : Except Fault Unit}

theorem history_eq (h : Injected c path text s result s') :
    s'.context.history = s.context.history := by
  cases h <;> rfl

theorem resolved_eq (h : Injected c path text s result s') :
    s'.context.resolved = s.context.resolved := by
  cases h <;> rfl

theorem pins_eq (h : Injected c path text s result s') : s'.pins = s.pins := by
  cases h <;> rfl

theorem options_eq (h : Injected c path text s result s') : s'.options = s.options := by
  cases h <;> rfl

end Injected

/-! ## Parts of lookups and passes -/

theorem handle_of_handled {fault : Fault} {message : String} {s : Scene ε}
    (h : fault.handled? = some message) (he : s.options.handlers.errors = true) :
    handle c fault s = Walk.act (c.onError message) s := by
  simp only [handle, h, bind, Walk.bind, Walk.scene, Step.andThen, he]

theorem handle_of_unhandled {fault : Fault} {s : Scene ε}
    (h : fault.handled? = none ∨ s.options.handlers.errors = false) :
    handle c fault s = .done (.error fault) s := by
  cases hm : fault.handled? with
  | none =>
    simp only [handle, bind, Walk.bind, Walk.scene, Step.andThen, hm]
    rfl
  | some message =>
    have he : s.options.handlers.errors = false := h.resolve_left (by simp [hm])
    simp only [handle, bind, Walk.bind, Walk.scene, Step.andThen, hm, he]
    rfl

/-- A failure is raised again, or the error handler is all that acts. -/
theorem handle_cases (c : Collaborators ε) (fault : Fault) (s : Scene ε) :
    handle c fault s = .done (.error fault) s ∨
      ∃ message, handle c fault s = Walk.act (c.onError message) s := by
  cases h : fault.handled? with
  | none => exact .inl (handle_of_unhandled (.inl h))
  | some message =>
    cases he : s.options.handlers.errors with
    | false => exact .inl (handle_of_unhandled (.inr he))
    | true => exact .inr ⟨message, handle_of_handled h he⟩

theorem importsOf_ensures {R : Regime ε} {s : Scene ε} {source : String} {parent : Parent} :
    (importsOf source parent).Ensures R s
      fun rs _ => Specifier.dependencies source parent = .ok rs :=
  .ofExcept fun _ h => ok_of_mapError h

theorem handle_ensures {R : Regime ε} {s : Scene ε} {Q : Scene ε → Prop} (fault : Fault)
    (hs : ∀ message, R.valid s → R.since s { s with env := (c.onError message s.env).2 })
    (hq : ∀ message, Q { s with env := (c.onError message s.env).2 }) :
    (handle c fault).Ensures R s fun _ => Q := by
  refine .read ?_
  split
  · exact .act (hs _) fun _ _ _ => hq _
  · exact .raise _

/-- A file that was found, or else the one that the manifest of the directory names. -/
def orInDirectory (c : Collaborators ε) (package path : String) :
    Option (Value × String) → Walk ε (Option (Value × String))
  | some file => Walk.pure (some file)
  | none => do
      match ← inDirectory c package path with
      | some file => Walk.pure (some file)
      | none => do
          reportFile c package path false
          Walk.pure none

theorem sourceFile_eq (c : Collaborators ε) (w : Wanted) :
    sourceFile c w =
      if leavesPackage (filePath w) then
        reportFile c w.package (filePath w) false >>= fun _ => Walk.pure none
      else if hasExtension (filePath w) then
        exactly c w.package (filePath w) >>= orInDirectory c w.package (filePath w)
      else
        firstOf c w.package (filePath w) extensions >>= orInDirectory c w.package (filePath w) := rfl

/-- The scene with other pins, once they were reported. -/
def Scene.repinned (c : Collaborators ε) (s : Scene ε) (pins : Pins) : Scene ε :=
  { s with
    pins := pins
    env := if s.options.handlers.versions then (c.onVersions pins s.env).2 else s.env }

theorem replacePins_eq_done (pins : Pins) (s : Scene ε) :
    ∃ result, replacePins c pins s = .done result (s.repinned c pins) := by
  unfold Scene.repinned
  cases h : s.options.handlers.versions with
  | false =>
    exact ⟨.ok (), by
      simp [replacePins, Walk.setPins, Walk.scene, bind, pure, Walk.bind, Walk.pure, Step.andThen, h]⟩
  | true =>
    exact ⟨(c.onVersions pins s.env).1, by
      simp [replacePins, Walk.setPins, Walk.scene, Walk.act, bind, Walk.bind, Step.andThen, h]⟩

/-- What keeps to a regime with the pins replaced and with the handler called keeps to it with both. -/
theorem Regime.since_repinned (R : Regime ε) {s : Scene ε} {pins : Pins}
    (hp : R.since s { s with pins := pins })
    (hv : R.since { s with pins := pins }
      { s with pins := pins, env := (c.onVersions pins s.env).2 }) :
    R.since s (s.repinned c pins) := by
  unfold Scene.repinned
  split
  · exact R.trans hp hv
  · exact hp

def course (c : Collaborators ε) (source : String) (parent : Parent) (budget : Budget) :
    Walk ε Unit := do
  let first ← Walk.ofExcept (preloads (← Walk.scene))
  let rest ← importsOf source parent
  let cross := across c budget.initialFileDepth.toNat budget.packageDepth.toNat
  let step := along c budget.packageDepth.toNat cross budget.fileDepth.toNat
  Walk.each (branch c cross step (homeOf parent)) (first ++ rest)

theorem pass_eq (c : Collaborators ε) (source : String) (parent : Parent) (budget : Budget)
    (s : Scene ε) :
    pass c source parent budget s = course c source parent budget { s with context := {} } := rfl

/-! ## Accounts -/

/-- A regime with an account of what was found so far and of the dependencies that are pursued. -/
structure Account (c : Collaborators ε) extends Regime ε where
  found : Scene ε → Findings
  pursued : Scene ε → Resource → Prop
  found_of_since : ∀ {s s' package path o}, since s s' → found s package path o →
    found s' package path o
  pursued_of_since : ∀ {s s' r}, since s s' → pursued s r → pursued s' r
  reported : ∀ {s} u, valid s → since s { s with env := (c.onUpdate u s.env).2 }
  cached : ∀ {s package path}, valid s → Route (found s) (pursued s) package path →
    let s' : Scene ε :=
      { s with env := (c.cached (Package.fileKey package (s.pins.version? package) path) s.env).2 }
    since s s' ∧ ∀ value,
      (c.cached (Package.fileKey package (s.pins.version? package) path) s.env).1 = .ok (some value) →
        found s' package path (some value)
  /-- A request, as any other action, goes by the pin that its package had at some time before. -/
  asked : ∀ {s₀ s package path}, valid s₀ → since s₀ s → Route (found s) (pursued s) package path →
    asks ⟨package, path, s₀.pins.pin package⟩ s
  answered : ∀ {s₀ s s' package path answer}, valid s₀ → since s₀ s →
    answers ⟨package, path, s₀.pins.pin package⟩ s answer s' →
      since s s' ∧ ∀ o, answer = .ok o → found s' package path (o.map .text)
  stored : ∀ {s₀ s package path text}, valid s₀ → since s₀ s →
    found s package path (some (.text text)) →
      since s { s with
        env := (c.store (Package.fileKey package (s₀.pins.version? package) path) text s.env).2 }
  sought : ∀ {s} key, valid s → since s { s with env := (c.isCached key s.env).2 }
  injected : ∀ {s s' result package path text}, valid s →
    Route (found s) (pursued s) package path → found s package path (some (.text text)) →
      Injected c (Package.hostPath package path) text s result s' → since s s'
  /-- A version is pinned by a manifest that names an entry: the one at the root of a package, or the one of
  the directory that a dependency names. -/
  pinned : ∀ {s package directory text manifest entry version}, valid s →
    Route (found s) (pursued s) package (Path.join [directory, "package.json"]) →
      directory = "" ∨ pursued s (.package package directory) →
        found s package (Path.join [directory, "package.json"]) (some (.text text)) →
          Manifest.read package text = .ok manifest → manifest.entry? = some entry →
            manifest.version? = some version → s.pins.agrees package version = false →
              since s (s.repinned c (s.pins.insert package (.text version)))
  looked : ∀ {s package path}, valid s → Route (found s) (pursued s) package path →
    since s { s with env := (c.hosted (Package.hostPath package path) s.env).2 }
  readied : ∀ {s package path}, valid s → Route (found s) (pursued s) package path →
    since s { s with env := (c.makeRoom (Package.hostPath package path) s.env).2 }
  failed : ∀ {s} message, valid s → since s { s with env := (c.onError message s.env).2 }

namespace Account

variable (A : Account c) {s s' : Scene ε}

theorem route_of_since {package path : String} (hs : A.since s s')
    (h : Route (A.found s) (A.pursued s) package path) :
    Route (A.found s') (A.pursued s') package path :=
  h.mono (fun _ _ _ => A.found_of_since hs) fun _ => A.pursued_of_since hs

/-! ## Single files -/

theorem report (u : Update) : (report c u).Ensures A.toRegime s fun _ _ => True := by
  refine .read ?_
  split
  · exact .act (A.reported u) fun _ _ _ => trivial
  · exact .pure trivial

/-- What comes from the cache or the source is what was found. -/
theorem retrieve {package path : String} (hr : Route (A.found s) (A.pursued s) package path) :
    (retrieve c package path).Ensures A.toRegime s fun o s' => A.found s' package path o := by
  refine .of_valid fun hv => .read (.bind
    (Q := fun o s' => ∀ value, o = some value → A.found s' package path (some value))
    (.act (fun _ => (A.cached hv hr).1) fun o ho _ value hc => ?_)
    fun o s₁ _ hs₁ hc => ?_)
  · exact (A.cached hv hr).2 value (hc ▸ ho)
  · cases o with
    | some value =>
      refine .bind (A.report _) fun _ s₂ _ hs₂ _ => .pure ?_
      exact A.found_of_since hs₂ (hc value rfl)
    | none =>
      refine .bind (Q := fun o s' => A.found s' package path (o.map .text))
        (.request (fun _ => ?_) fun answer s' _ ha => A.answered hv hs₁ ha) fun o s₂ _ hs₂ hf => ?_
      · exact A.asked hv hs₁ (A.route_of_since hs₁ hr)
      · cases o with
        | none => exact .pure hf
        | some text =>
          refine .bind (Q := fun _ _ => True) ?_ fun _ s₃ _ hs₃ _ => ?_
          · exact .act (fun _ => A.stored hv (A.trans hs₁ hs₂) hf) fun _ _ _ => trivial
          · refine .bind (A.report _) fun _ s₄ _ hs₄ _ => .pure ?_
            exact A.found_of_since (A.trans hs₃ hs₄) hf

theorem textOf {content : Value} :
    (textOf content).Ensures A.toRegime s fun text _ => content = .text text := by
  cases content with
  | text t => exact .pure rfl
  | _ => exact .raise _

theorem inject {package path text : String} (hr : Route (A.found s) (A.pursued s) package path)
    (hf : A.found s package path (some (.text text))) :
    (inject c (Package.hostPath package path) text).Ensures A.toRegime s fun _ _ => True := by
  obtain ⟨result, s', he, hi⟩ := inject_eq_done (c := c) (Package.hostPath package path) text s
  exact .of_eq_done he (fun hv => A.injected hv hr hf hi) fun _ _ _ _ => trivial

theorem hostable {package path : String} {content : Value}
    (hr : Route (A.found s) (A.pursued s) package path) :
    (hostable c (Package.hostPath package path) content).Ensures A.toRegime s
      fun text s' => content = .text text ∧ s' = s := by
  cases content with
  | text t => exact .pure ⟨rfl, rfl⟩
  | _ =>
    refine .bind (Q := fun _ _ => True) (.act (fun hv => A.looked hv hr) fun _ _ _ => trivial)
      fun _ s₁ _ hs₁ _ => ?_
    refine .bind (Q := fun _ _ => True) ?_ fun _ _ _ _ _ => .raise _
    exact .act (fun hv => A.readied hv (A.route_of_since hs₁ hr)) fun _ _ _ => trivial

theorem handle (fault : Fault) : (handle c fault).Ensures A.toRegime s fun _ _ => True :=
  handle_ensures fault (fun message hv => A.failed message hv) fun _ => trivial

/-! ## Entries of packages -/

/-- A version that a manifest names is the pin of its package from then on. -/
theorem pin {package directory text entry version : String} {manifest : Manifest}
    (hr : Route (A.found s) (A.pursued s) package (Path.join [directory, "package.json"]))
    (hd : directory = "" ∨ A.pursued s (.package package directory))
    (hf : A.found s package (Path.join [directory, "package.json"]) (some (.text text)))
    (hm : Manifest.read package text = .ok manifest) (he : manifest.entry? = some entry)
    (hver : manifest.version? = some version) :
    (pin c package version).Ensures A.toRegime s
      fun _ s' => s'.pins.version? package = some version := by
  have hne := Manifest.version?_ne_empty hver
  refine .read ?_
  dsimp only
  split
  · next ha => exact .pure (Pins.version?_of_agrees ha hne)
  · next ha =>
    have hpin : Pins.version? (s.pins.insert package (.text version)) package = some version :=
      Pins.version?_of_agrees (Pins.agrees_insert ..) hne
    obtain ⟨result, hdone⟩ := replacePins_eq_done (c := c) (s.pins.insert package (.text version)) s
    refine .of_eq_done hdone (fun hv => ?_) fun _ _ _ _ => hpin
    exact A.pinned hv hr hd hf hm he hver (by simpa using ha)

/-- What the injection of the manifest brings about, and what nothing undoes, holds where it has named an
entry. -/
theorem manifestEntry_injecting {package directory subPath : String} {content : Value} {typed : Bool}
    {P : Scene ε → Prop} (hP : ∀ {s₁ s₂}, A.since s₁ s₂ → P s₁ → P s₂)
    (hr : Route (A.found s) (A.pursued s) package (Path.join [directory, "package.json"]))
    (hd : directory = "" ∨ A.pursued s (.package package directory))
    (hf : A.found s package (Path.join [directory, "package.json"]) (some content))
    (hi : ∀ text s₁, A.since s s₁ → content = .text text →
      (Resolution.inject c (Package.hostPath package (Path.join [directory, "package.json"])) text).Ensures
        A.toRegime s₁ fun _ => P) :
    (manifestEntry c package directory subPath content typed).Ensures A.toRegime s
      fun o s' => EntryIn package directory subPath content o ∧ (o ≠ none → P s') := by
  refine .bind A.textOf fun text s₁ _ hs₁ ht => ?_
  subst ht
  refine .bind (Q := fun manifest _ => Manifest.read package text = .ok manifest)
    (.ofExcept fun _ h => h) fun manifest s₂ _ hs₂ hm => ?_
  have hs := A.trans hs₁ hs₂
  cases he : manifest.entry? with
  | none => exact .pure ⟨.silent hm he, fun hn => absurd rfl hn⟩
  | some entry =>
    refine .bind (hi text s₂ hs rfl) fun _ s₃ _ hs₃ hp₃ => ?_
    have hr₃ := A.route_of_since (A.trans hs hs₃) hr
    have hd₃ := hd.imp_right (A.pursued_of_since (A.trans hs hs₃))
    have hf₃ := A.found_of_since (A.trans hs hs₃) hf
    have reported : ∀ s', P s' → (do
        Resolution.report c (.lookedUpPackage package typed true)
        pure (some ⟨package, "", entryPath directory subPath entry⟩) : Walk ε _).Ensures A.toRegime s'
          fun o s'' => EntryIn package directory subPath (.text text) o ∧ (o ≠ none → P s'') :=
      fun s' hp => .bind (A.report _) fun _ _ _ hs' _ => .pure ⟨.named hm he, fun _ => hP hs' hp⟩
    cases hver : manifest.version? with
    | none =>
      exact .bind (Q := fun _ s' => P s') (.pure hp₃) fun _ s₄ _ _ hp₄ => reported s₄ hp₄
    | some version =>
      refine .bind (A.pin hr₃ hd₃ hf₃ hm he hver) fun _ s₄ hv₄ hs₄ hpin => ?_
      refine .bind (Q := fun _ _ => True) (.act (fun hv => A.sought _ hv) fun _ _ _ => trivial)
        fun known s₅ _ hs₅ _ => ?_
      have hf₅ := A.found_of_since (A.trans hs₄ hs₅) hf₃
      have hp₅ := hP (A.trans hs₄ hs₅) hp₃
      split
      · refine .bind (Q := fun _ _ => True) (.act (fun _ => ?_) fun _ _ _ => trivial)
          fun _ s₆ _ hs₆ _ => reported s₆ (hP hs₆ hp₅)
        exact hpin ▸ A.stored hv₄ hs₅ hf₅
      · exact reported s₅ hp₅

theorem manifestEntry {package directory subPath : String} {content : Value} {typed : Bool}
    (hr : Route (A.found s) (A.pursued s) package (Path.join [directory, "package.json"]))
    (hd : directory = "" ∨ A.pursued s (.package package directory))
    (hf : A.found s package (Path.join [directory, "package.json"]) (some content)) :
    (manifestEntry c package directory subPath content typed).Ensures A.toRegime s
      fun o _ => EntryIn package directory subPath content o := by
  refine (A.manifestEntry_injecting (P := fun _ => True) (fun _ => id) hr hd hf ?_).mono fun _ _ _ _ h => h.1
  rintro text s₁ hs₁ rfl
  exact A.inject (A.route_of_since hs₁ hr) (A.found_of_since hs₁ hf)

theorem manifestFor {package subPath : String} (hp : A.pursued s (.package package subPath)) :
    (manifestFor c package subPath).Ensures A.toRegime s
      fun o s' => FoundManifest (A.found s') package subPath o := by
  refine .bind (A.retrieve (.entry hp)) fun o s₁ _ hs₁ ho => ?_
  cases o with
  | some content => exact .pure (.own ho)
  | none =>
    dsimp only
    split
    · next hsub => exact .pure (.absent ho hsub)
    · next hsub =>
      refine .bind (A.retrieve (.root (A.pursued_of_since hs₁ hp))) fun o s₂ _ hs₂ hr => ?_
      exact .pure (.root (A.found_of_since hs₂ ho) hsub hr)

theorem typedEntry {package subPath : String} (hp : A.pursued s (.package package subPath)) :
    (typedEntry c package subPath).Ensures A.toRegime s
      fun o s' => FoundTyped (A.found s') package subPath o := by
  refine .bind (A.retrieve (.typed hp)) fun o s₁ _ hs₁ ho => ?_
  cases o with
  | none => exact .pure (.absent ho)
  | some content =>
    refine (A.manifestEntry ?_ (.inl rfl) ?_).mono fun o s₂ _ hs₂ he => ?_
    · exact .typed (A.pursued_of_since hs₁ hp)
    · exact ho
    · exact .present (A.found_of_since hs₂ ho) he

theorem ownOrTypedEntry {package subPath : String} (hp : A.pursued s (.package package subPath)) :
    (ownOrTypedEntry c package subPath).Ensures A.toRegime s
      fun o s' => FoundEntry (A.found s') package subPath o := by
  refine .bind (A.manifestFor hp) fun o s₁ _ hs₁ ho => ?_
  match o, ho with
  | none, ho => exact .pure (.absent ho)
  | some (content, directory), ho =>
    have hp₁ := A.pursued_of_since hs₁ hp
    refine .bind (A.manifestEntry (ho.route hp₁) (ho.pursued hp₁) ho.found_content) fun o s₂ _ hs₂ he => ?_
    have ho₂ := ho.mono fun _ _ _ => A.found_of_since hs₂
    cases o with
    | some w => exact .pure (.own ho₂ he)
    | none =>
      refine (A.typedEntry (A.pursued_of_since hs₂ hp₁)).mono fun o s₃ _ hs₃ ht => ?_
      exact .typed (ho₂.mono fun _ _ _ => A.found_of_since hs₃) he ht

theorem packageEntry {package subPath : String} (hp : A.pursued s (.package package subPath)) :
    (packageEntry c package subPath).Ensures A.toRegime s fun o s' =>
      (s.options.onlySpecifiedPackages = true ∧ o = none) ∨
        FoundEntry (A.found s') package subPath o := by
  let Q : Option Wanted → Scene ε → Prop := fun o s' =>
    (s.options.onlySpecifiedPackages = true ∧ o = none) ∨ FoundEntry (A.found s') package subPath o
  have rest : ∀ o s₁, Q o s₁ → (do
      if o.isNone then Resolution.report c (.lookedUpPackage package false false)
      return o : Walk ε (Option Wanted)).Ensures A.toRegime s₁ Q := fun o s₁ ho => by
    have keep : ∀ s₂, A.since s₁ s₂ → Q o s₂ := fun s₂ hs =>
      ho.imp_right fun h => h.mono fun _ _ _ => A.found_of_since hs
    dsimp only
    split
    · exact .bind (A.report _) fun _ s₂ _ hs₂ _ => .pure (keep s₂ hs₂)
    · exact .pure ho
  refine .read ?_
  dsimp only
  split
  · next h =>
    refine .bind (Q := Q) (.pure (.inl ⟨?_, rfl⟩)) fun o s₁ _ _ => rest o s₁
    exact (Bool.and_eq_true_iff.mp h).1
  · exact .bind ((A.ownOrTypedEntry hp).mono fun o s' _ _ h => .inr h) fun o s₁ _ _ => rest o s₁

/-! ## Files of imports -/

theorem exactly {package path : String} (hr : Route (A.found s) (A.pursued s) package path) :
    (exactly c package path).Ensures A.toRegime s
      fun o s' => FoundAt (A.found s') package path o := by
  refine .bind (A.retrieve hr) fun o s₁ _ hs₁ ho => ?_
  cases o with
  | none => exact .pure ⟨none, ho, rfl⟩
  | some content =>
    refine .bind (A.report _) fun _ s₂ _ hs₂ _ => .pure ?_
    exact ⟨some content, A.found_of_since hs₂ ho, rfl⟩

theorem firstOf {package path : String} {endings : List String}
    (hr : ∀ ending ∈ endings, Route (A.found s) (A.pursued s) package (path ++ ending)) :
    (firstOf c package path endings).Ensures A.toRegime s
      fun o s' => FoundFirst (A.found s') package path endings o := by
  induction endings generalizing s with
  | nil => exact .pure .none
  | cons ending rest ih =>
    refine .bind (A.retrieve (hr ending (List.mem_cons_self ..))) fun o s₁ _ hs₁ ho => ?_
    refine .bind (A.report _) fun _ s₂ _ hs₂ _ => ?_
    have ho₂ := A.found_of_since hs₂ ho
    have hs := A.trans hs₁ hs₂
    cases o with
    | some content =>
      exact .bind (A.report _) fun _ s₃ _ hs₃ _ => .pure (.hit (A.found_of_since hs₃ ho₂))
    | none =>
      refine (ih fun e he => ?_).mono fun o s₃ _ hs₃ hf => .miss (A.found_of_since hs₃ ho₂) hf
      exact A.route_of_since hs (hr e (List.mem_cons_of_mem _ he))

theorem inDirectory {w : Wanted}
    (hr : ∀ path s', A.since s s' → Tried (A.found s') w path →
      Route (A.found s') (A.pursued s') w.package path) :
    (inDirectory c w.package (filePath w)).Ensures A.toRegime s
      fun o s' => FoundInDirectory (A.found s') w.package (filePath w) o := by
  refine .bind (A.retrieve (hr _ s (A.refl s) .directory)) fun o s₁ _ hs₁ ho => ?_
  cases o with
  | none => exact .pure (.absent ho)
  | some content =>
    refine .bind A.textOf fun text s₂ _ hs₂ ht => ?_
    subst ht
    have ho₂ := A.found_of_since hs₂ ho
    refine .bind (Q := fun manifest _ => Manifest.read w.package text = .ok manifest)
      (.ofExcept fun _ h => h) fun manifest s₃ _ hs₃ hm => ?_
    have ho₃ := A.found_of_since hs₃ ho₂
    cases ht : manifest.types? with
    | none => exact .pure (.silent ho₃ hm ht)
    | some types =>
      have hs := A.trans hs₁ (A.trans hs₂ hs₃)
      refine (A.exactly (hr _ s₃ hs (.named ho₃ hm ht))).mono fun o s₄ _ hs₄ ho => ?_
      exact .named (A.found_of_since hs₄ ho₃) hm ht ho

theorem sourceFile {r : Resource} {w : Wanted} (hp : A.pursued s r) (hn : Names (A.found s) r w) :
    (sourceFile c w).Ensures A.toRegime s fun o s' => FoundFile (A.found s') w o := by
  rw [sourceFile_eq]
  split
  · next hl => exact .bind (A.report _) fun _ _ _ _ _ => .pure (.outside hl)
  · next hl =>
    have hl : leavesPackage (filePath w) = false := by simpa using hl
    have hr : ∀ s₀, A.since s s₀ → ∀ path s', A.since s₀ s' → Tried (A.found s') w path →
        Route (A.found s') (A.pursued s') w.package path := fun s₀ hs₀ path s' hs ht => by
      have hs' := A.trans hs₀ hs
      exact .file (A.pursued_of_since hs' hp)
        (hn.mono fun _ _ _ => A.found_of_since hs') hl ht
    have rest : ∀ o s₁, A.since s s₁ → FoundDirectly (A.found s₁) w.package (filePath w) o →
        (orInDirectory c w.package (filePath w) o).Ensures A.toRegime s₁
          fun o s' => FoundFile (A.found s') w o := fun o s₁ hs₁ ho => by
      cases o with
      | some file => exact .pure (.directly hl ho)
      | none =>
        refine .bind (A.inDirectory (hr s₁ hs₁)) fun o s₂ _ hs₂ hd => ?_
        have ho₂ := ho.mono fun _ _ _ => A.found_of_since hs₂
        cases o with
        | some file => exact .pure (.inDirectory hl ho₂ hd)
        | none =>
          refine .bind (A.report _) fun _ s₃ _ hs₃ _ => .pure (.inDirectory hl ?_ ?_)
          · exact ho₂.mono fun _ _ _ => A.found_of_since hs₃
          · exact hd.mono fun _ _ _ => A.found_of_since hs₃
    split
    · next he =>
      refine .bind (A.exactly (hr s (A.refl s) _ s (A.refl s) (.itself he))) fun o s₁ _ hs₁ ho => ?_
      exact rest o s₁ hs₁ (.exact he ho)
    · next he =>
      have he : hasExtension (filePath w) = false := by simpa using he
      refine .bind (A.firstOf fun ending hm => ?_) fun o s₁ _ hs₁ ho => ?_
      · exact hr s (A.refl s) _ s (A.refl s) (.ending he hm)
      · exact rest o s₁ hs₁ (.probed he ho)

end Account

end DeclarationFetch.Resolution
