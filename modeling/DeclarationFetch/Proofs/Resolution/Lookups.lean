import DeclarationFetch.Proofs.Resolution.Account
import DeclarationFetch.Proofs.Resolution.Caching

/-! # Lookups in correspondence

From laws about single actions, that a lookup comes to the same in two walks.

* `Lookups c c₀`: a correspondence with a law for each thing that a lookup does. The pins need to be the
  same in both walks for some of the packages only.
* `Lookups.packageEntry`, `Lookups.sourceFile`: what the laws make of the lookups for such packages.
-/

namespace DeclarationFetch

theorem Pins.version?_of_get? {pins pins' : Pins} {package : String}
    (h : pins.get? package = pins'.get? package) : pins.version? package = pins'.version? package := by
  unfold Pins.version? Pins.pin
  rw [h]

namespace Resolution

variable {ε ε₀ : Type} {c : Collaborators ε} {c₀ : Collaborators ε₀}

/-! ## Laws -/

theorem keep_bind {α : Type} (key text : String) (next : Unit → Walk ε α) :
    (do
      if !(← Walk.act (c.isCached key)) then
        let stored ← Walk.act (c.store key text)
        next stored
      else next ()) = keep c key text >>= next := by
  funext s
  simp only [keep, Walk.act, bind, Walk.bind, Step.andThen]
  cases (c.isCached key s.env).1 with
  | error fault => rfl
  | ok known => cases known <;> rfl

/-- A correspondence that everything keeps which lookups do in both walks. -/
structure Lookups (c : Collaborators ε) (c₀ : Collaborators ε₀) extends Correspondence ε ε₀ where
  /-- The packages with the same pins in both walks. -/
  shared : String → Prop
  /-- What may come back for a file. -/
  served : String → String → Value → Prop
  text_of_served : ∀ {package path value}, served package path value → ∃ text, value = .text text
  options_eq : ∀ {s s₀}, rel s s₀ → s.options = s₀.options
  pin_eq : ∀ {s s₀ package}, rel s s₀ → shared package → s.pins.get? package = s₀.pins.get? package
  retrieved : ∀ {s s₀ package} path, shared package → (retrieve c package path).Follows
    toCorrespondence s (retrieve c₀ package path) s₀ fun o => ∀ value, o = some value →
      served package path value
  reported : ∀ {s s₀} u, u.aboutCache = false → (Walk.act (c.onUpdate u)).Follows toCorrespondence s
    (Walk.act (c₀.onUpdate u)) s₀ fun _ => True
  injected : ∀ {s s₀} path text, (inject c path text).Follows toCorrespondence s
    (inject c₀ path text) s₀ fun _ => True
  pinned : ∀ {s s₀ package directory text manifest version}, shared package →
    served package (Path.join [directory, "package.json"]) (.text text) →
      Manifest.read package text = .ok manifest → manifest.version? = some version →
        (pin c package version).Follows toCorrespondence s (pin c₀ package version) s₀ fun _ => True
  /-- A manifest goes into the cache under the version that it names. -/
  kept : ∀ {s s₀ package directory text manifest version},
    served package (Path.join [directory, "package.json"]) (.text text) →
      Manifest.read package text = .ok manifest → manifest.version? = some version →
        let key := Package.fileKey package (some version) (Path.join [directory, "package.json"])
        (keep c key text).Follows toCorrespondence s (keep c₀ key text) s₀ fun _ => True

namespace Lookups

variable (L : Lookups c c₀) {s : Scene ε} {s₀ : Scene ε₀} {package : String}

theorem version_eq (hr : L.rel s s₀) (hp : L.shared package) :
    s.pins.version? package = s₀.pins.version? package := Pins.version?_of_get? (L.pin_eq hr hp)

theorem isSpecified_eq (hr : L.rel s s₀) (hp : L.shared package)
    (ht : L.shared (Package.definitelyTyped package)) :
    isSpecified s.pins package = isSpecified s₀.pins package := by
  unfold isSpecified Assoc.contains
  rw [L.pin_eq hr hp, L.pin_eq hr ht]

theorem report (u : Update) (hu : u.aboutCache = false) :
    (report c u).Follows L.toCorrespondence s (report c₀ u) s₀ fun _ => True := by
  refine .read fun hr => ?_
  rw [L.options_eq hr]
  exact .ite (fun _ => L.reported u hu) fun _ => .pure trivial

theorem reportFile (package path : String) (success : Bool) :
    (reportFile c package path success).Follows L.toCorrespondence s
      (reportFile c₀ package path success) s₀ fun _ => True :=
  L.report _ rfl

theorem versionOf (hp : L.shared package) :
    (versionOf package : Walk ε _).Follows L.toCorrespondence s (versionOf package) s₀
      fun _ => True := by
  refine .read fun hr => ?_
  rw [L.version_eq hr hp]
  exact .pure trivial

theorem textOf {content : Value} {P : Value → Prop} (hc : P content) :
    (textOf content : Walk ε _).Follows L.toCorrespondence s (textOf content) s₀
      fun text => P (.text text) := by
  cases content with
  | text t => exact .pure hc
  | _ => exact .raise _

/-! ## Entries of packages -/

theorem manifestEntry {directory subPath : String} {content : Value} {typed : Bool}
    (hp : L.shared package) (hc : L.served package (Path.join [directory, "package.json"]) content) :
    (manifestEntry c package directory subPath content typed).Follows L.toCorrespondence s
      (manifestEntry c₀ package directory subPath content typed) s₀
      fun o => ∀ w, o = some w → w.package = package := by
  refine .bind (L.textOf hc) fun text s₁ s₁' _ ht => ?_
  refine .bind (.ofExcept fun _ h => h) fun manifest s₂ s₂' _ hm => ?_
  cases manifest.entry? with
  | none => exact .pure fun _ he => nomatch he
  | some entry =>
    have named : ∀ w : Wanted, some ⟨package, "", entryPath directory subPath entry⟩ = some w →
        w.package = package := fun w he => by
      cases he
      rfl
    refine .bind (L.injected _ text) fun _ s₃ s₃' _ _ => ?_
    cases hver : manifest.version? with
    | none =>
      exact .bind (Q := fun _ => True) (.pure trivial) fun _ _ _ _ _ =>
        .bind (L.report _ rfl) fun _ _ _ _ _ => .pure named
    | some version =>
      refine .bind (L.pinned hp ht hm hver) fun _ s₄ s₄' _ _ => ?_
      dsimp only
      rw [keep_bind, keep_bind]
      exact .bind (L.kept ht hm hver) fun _ _ _ _ _ =>
        .bind (L.report _ rfl) fun _ _ _ _ _ => .pure named

theorem manifestFor (hp : L.shared package) (subPath : String) :
    (manifestFor c package subPath).Follows L.toCorrespondence s (manifestFor c₀ package subPath) s₀
      fun o => ∀ content directory, o = some (content, directory) →
        L.served package (Path.join [directory, "package.json"]) content := by
  refine .bind (L.retrieved _ hp) fun o s₁ s₁' _ ho => ?_
  cases o with
  | some content =>
    refine .pure fun content' directory he => ?_
    cases he
    exact ho content rfl
  | none =>
    refine .ite (fun _ => .pure fun _ _ he => nomatch he) fun _ => ?_
    refine .bind (L.retrieved _ hp) fun o s₂ s₂' _ ho => .pure fun content directory he => ?_
    cases o with
    | none => cases he
    | some content' =>
      cases he
      exact ho content rfl

theorem typedEntry (ht : L.shared (Package.definitelyTyped package)) (subPath : String) :
    (typedEntry c package subPath).Follows L.toCorrespondence s (typedEntry c₀ package subPath) s₀
      fun o => ∀ w, o = some w → w.package = Package.definitelyTyped package := by
  refine .bind (L.retrieved _ ht) fun o s₁ s₁' _ ho => ?_
  cases o with
  | none => exact .pure fun _ he => nomatch he
  | some content =>
    have hc : L.served _ (Path.join ["", "package.json"]) content := ho content rfl
    exact L.manifestEntry ht hc

def EntryOf (package : String) (o : Option Wanted) : Prop :=
  ∀ w, o = some w → w.package = package ∨ w.package = Package.definitelyTyped package

theorem ownOrTypedEntry (hp : L.shared package) (ht : L.shared (Package.definitelyTyped package))
    (subPath : String) :
    (ownOrTypedEntry c package subPath).Follows L.toCorrespondence s
      (ownOrTypedEntry c₀ package subPath) s₀ (EntryOf package) := by
  refine .bind (L.manifestFor hp subPath) fun o s₁ s₁' _ ho => ?_
  match o, ho with
  | none, _ => exact .pure fun _ he => nomatch he
  | some (content, directory), ho =>
    refine .bind (L.manifestEntry hp (ho content directory rfl)) fun o s₂ s₂' _ he => ?_
    cases o with
    | some w => exact .pure fun w hw => .inl (he w hw)
    | none => exact (L.typedEntry ht subPath).mono fun o ho w hw => .inr (ho w hw)

theorem packageEntry (hp : L.shared package) (ht : L.shared (Package.definitelyTyped package))
    (subPath : String) :
    (packageEntry c package subPath).Follows L.toCorrespondence s (packageEntry c₀ package subPath) s₀
      (EntryOf package) := by
  have reported : ∀ (o : Option Wanted) (s : Scene ε) (s₀ : Scene ε₀), EntryOf package o → (do
      if o.isNone then Resolution.report c (.lookedUpPackage package false false)
      return o : Walk ε _).Follows L.toCorrespondence s (do
      if o.isNone then Resolution.report c₀ (.lookedUpPackage package false false)
      return o) s₀ (EntryOf package) := fun o s s₀ ho =>
    .ite (fun _ => .bind (L.report _ rfl) fun _ _ _ _ _ => .pure ho) fun _ => .pure ho
  refine .read fun hr => ?_
  dsimp only
  rw [L.options_eq hr, L.isSpecified_eq hr hp ht]
  refine .ite (fun _ => ?_) fun _ => ?_
  · exact .bind (Q := EntryOf package) (.pure fun _ he => nomatch he) fun o s s₀ _ ho =>
      reported o s s₀ ho
  · exact .bind (L.ownOrTypedEntry hp ht subPath) fun o s s₀ _ ho => reported o s s₀ ho

/-! ## Files of imports -/

def Textual (o : Option (Value × String)) : Prop :=
  ∀ content path, o = some (content, path) → ∃ text, content = .text text

theorem exactly (hp : L.shared package) (path : String) :
    (exactly c package path).Follows L.toCorrespondence s (exactly c₀ package path) s₀ Textual := by
  refine .bind (L.retrieved path hp) fun o s₁ s₁' _ ho => ?_
  cases o with
  | none => exact .pure fun _ _ he => nomatch he
  | some content =>
    refine .bind (L.reportFile ..) fun _ _ _ _ _ => .pure fun content' path' he => ?_
    cases he
    exact L.text_of_served (ho content rfl)

theorem firstOf (hp : L.shared package) (path : String) (endings : List String) :
    (firstOf c package path endings).Follows L.toCorrespondence s (firstOf c₀ package path endings) s₀
      Textual := by
  induction endings generalizing s s₀ with
  | nil => exact .pure fun _ _ he => nomatch he
  | cons ending rest ih =>
    refine .bind (L.retrieved _ hp) fun o s₁ s₁' _ ho => ?_
    refine .bind (L.report _ rfl) fun _ s₂ s₂' _ _ => ?_
    cases o with
    | none => exact ih
    | some content =>
      refine .bind (L.reportFile ..) fun _ _ _ _ _ => .pure fun content' path' he => ?_
      cases he
      exact L.text_of_served (ho content rfl)

theorem inDirectory (hp : L.shared package) (path : String) :
    (inDirectory c package path).Follows L.toCorrespondence s (inDirectory c₀ package path) s₀
      Textual := by
  refine .bind (L.retrieved _ hp) fun o s₁ s₁' _ ho => ?_
  cases o with
  | none => exact .pure fun _ _ he => nomatch he
  | some content =>
    refine .bind (L.textOf (P := fun _ => True) trivial) fun text s₂ s₂' _ _ => ?_
    refine .bind (.ofExcept (Q := fun _ => True) fun _ _ => trivial) fun manifest s₃ s₃' _ _ => ?_
    cases manifest.types? with
    | none => exact .pure fun _ _ he => nomatch he
    | some types => exact L.exactly hp _

theorem orInDirectory (hp : L.shared package) (path : String) {o : Option (Value × String)}
    (ho : Textual o) :
    (orInDirectory c package path o).Follows L.toCorrespondence s (orInDirectory c₀ package path o) s₀
      Textual := by
  cases o with
  | some file => exact .pure ho
  | none =>
    refine .bind (L.inDirectory hp path) fun o _ _ _ ho => ?_
    cases o with
    | some file => exact .pure ho
    | none => exact .bind (L.reportFile ..) fun _ _ _ _ _ => .pure fun _ _ he => nomatch he

theorem sourceFile {w : Wanted} (hp : L.shared w.package) :
    (sourceFile c w).Follows L.toCorrespondence s (sourceFile c₀ w) s₀ Textual := by
  rw [sourceFile_eq, sourceFile_eq]
  refine .ite (fun _ => .bind (L.reportFile ..) fun _ _ _ _ _ => .pure fun _ _ he => nomatch he)
    fun _ => .ite (fun _ => ?_) fun _ => ?_
  · exact .bind (L.exactly hp _) fun _ _ _ _ ho => L.orInDirectory hp _ ho
  · exact .bind (L.firstOf hp _ _) fun _ _ _ _ ho => L.orInDirectory hp _ ho

end Lookups

end Resolution

end DeclarationFetch
