import DeclarationFetch.Proofs.Resolution.Caching
import DeclarationFetch.Proofs.Resolution.Failure
import DeclarationFetch.Proofs.Resolution.Policy
import DeclarationFetch.Proofs.Specifier.Rootless

/-! # Failures that are contained

What a pass with an error handler raises, where its cache and its host do not fail and its source fails
only to fetch.

* `Tame c`: collaborators that do not fault, such as a cache and a host in memory (`tame_memory`).
* `NamesNothing`: something is preloaded or imported that names no package.
* `Overlong log`: a manifest was found with an integer that is too long.
* `pass_contained`: a pass comes to its end, and it raises a fault just when something names nothing, or
  else only where a manifest is overlong.
-/

namespace DeclarationFetch.Resolution

open Specifier (ImportsRootless)

variable {ε α : Type} {c : Collaborators ε}

/-! ## Collaborators that do not fault -/

/-- Nothing but the source of packages fails. -/
structure Tame (c : Collaborators ε) : Prop extends CacheCalm c where
  hosted : ∀ path env, ∃ held, (c.hosted path env).1 = .ok held
  host : ∀ path text env, (c.host path text env).1 = .ok ()
  onUpdate : ∀ u env, (c.onUpdate u env).1 = .ok ()
  onVersions : ∀ pins env, (c.onVersions pins env).1 = .ok ()
  onError : ∀ message env, (c.onError message env).1 = .ok ()

/-- A cache and a host in memory do not fault, and neither do callbacks that return. -/
theorem tame_memory (id hostId : Nat) :
    Tame (Workspace.collaborators (.memory id) (.memory hostId)) where
  cached _ _ := ⟨_, rfl⟩
  isCached _ _ := ⟨_, rfl⟩
  store _ _ _ := rfl
  told _ _ _ := rfl
  hosted _ _ := ⟨_, rfl⟩
  host _ _ _ := rfl
  onUpdate _ _ := rfl
  onVersions _ _ := rfl
  onError _ _ := rfl

/-- No file that was searched for imports has one that names nothing. -/
def Rooted (history : List Milestone) : Prop :=
  ∀ package version path text budget, .expanded package version path text budget ∈ history →
    ¬ ImportsRootless text

/-- Something names no package: what is preloaded, or what the source text or an expanded file
imports. -/
inductive NamesNothing (s : Scene ε) (source : String) (history : List Milestone) : Prop
  | preloaded (ho : s.options.preloadPackages = true) (h : "" ∈ s.pins.keys)
  | source (h : ImportsRootless source)
  | expanded (h : ¬ Rooted history)

/-- A manifest was found with an integer that is too long to be read. -/
def Overlong (log : List Observation) : Prop :=
  ∃ package directory text,
    Seen log package (Path.join [directory, "package.json"]) (some (.text text)) ∧
      Manifest.read package text = .error .integerTooLong

/-- How a pass from `s` may end. -/
inductive Contained (s : Scene ε) (source : String) : Except Fault Unit → Scene (Watched ε) → Prop
  | returned {s' : Scene (Watched ε)} (h : ¬ NamesNothing s source s'.context.history) :
      Contained s source (.ok ()) s'
  | namesNothing {s' : Scene (Watched ε)} (h : NamesNothing s source s'.context.history) :
      Contained s source (.error (.specifier .emptyPackageName)) s'
  | overlong {s' : Scene (Watched ε)} (h : ¬ NamesNothing s source s'.context.history)
      (hl : Overlong s'.env.log) : Contained s source (.error .integerTooLong) s'

theorem rooted_record {m : Milestone} {context : Context}
    (hm : ∀ package version path text budget, m = .expanded package version path text budget →
      ¬ ImportsRootless text) : Rooted (context.record m).history ↔ Rooted context.history := by
  refine ⟨fun h _ _ _ _ _ he => h _ _ _ _ _ (List.mem_cons_of_mem _ he), fun h => ?_⟩
  intro package version path text budget he
  rcases List.mem_cons.mp he with rfl | he
  · exact hm _ _ _ _ _ rfl
  · exact h _ _ _ _ _ he

theorem importsOf_eq (ε : Type) (source : String) {parent : Parent}
    (hp : Specifier.Parent.Possible parent) :
    (ImportsRootless source ∧
      (importsOf source parent : Walk ε _) = Walk.raise (.specifier .emptyPackageName)) ∨
    (¬ ImportsRootless source ∧ ∃ rs, (importsOf source parent : Walk ε _) = Walk.pure rs) := by
  unfold importsOf
  cases hd : Specifier.dependencies source parent with
  | error fault =>
    obtain ⟨rfl, hr⟩ := (Specifier.dependencies_eq_error_iff hp).mp hd
    exact .inl ⟨hr, rfl⟩
  | ok rs =>
    refine .inr ⟨fun hr => ?_, rs, rfl⟩
    cases hd.symm.trans ((Specifier.dependencies_eq_error_iff hp).mpr ⟨rfl, hr⟩)

theorem preloads_eq (s : Scene ε) :
    ((s.options.preloadPackages = true ∧ "" ∈ s.pins.keys) ∧
      preloads s = .error (.specifier .emptyPackageName)) ∨
    (¬ (s.options.preloadPackages = true ∧ "" ∈ s.pins.keys) ∧ ∃ rs, preloads s = .ok rs) := by
  unfold preloads
  by_cases ho : s.options.preloadPackages = true
  · rw [if_pos ho]
    let resource (name : String) : Except Fault Resource :=
      if name = "" then .error (.specifier .emptyPackageName) else .ok (.package name "")
    have hnameless : ∀ name ∈ s.pins.keys, ∀ fault, resource name = .error fault →
        fault = .specifier .emptyPackageName := fun name _ fault h => by
      by_cases hn : name = ""
      · cases (if_pos hn).symm.trans h
        rfl
      · cases (if_neg hn).symm.trans h
    have hiff : ∀ fault, s.pins.keys.mapM resource = .error fault ↔
        fault = .specifier .emptyPackageName ∧ "" ∈ s.pins.keys := fun fault => by
      rw [mapM_eq_error_iff hnameless]
      refine and_congr_right fun _ => ⟨fun ⟨name, hm, he⟩ => ?_, fun h => ⟨"", h, rfl⟩⟩
      by_cases hn : name = ""
      · exact hn ▸ hm
      · cases (if_neg hn).symm.trans he
    cases hp : s.pins.keys.mapM resource with
    | error fault =>
      obtain ⟨rfl, hm⟩ := (hiff fault).mp hp
      exact .inl ⟨⟨ho, hm⟩, rfl⟩
    | ok rs =>
      refine .inr ⟨fun h => ?_, rs, rfl⟩
      cases hp.symm.trans ((hiff _).mpr ⟨rfl, h.2⟩)
  · rw [if_neg ho]
    exact .inr ⟨fun h => ho h.1, [], rfl⟩

namespace Containment

/-! ## The regime -/

/-- More was observed, and nothing that names nothing was searched. -/
structure Since (s s' : Scene (Watched ε)) : Prop where
  options : s'.options = s.options
  log : s.env.log ⊆ s'.env.log
  rooted : Rooted s.context.history → Rooted s'.context.history

/-- What may be raised before the error handler is asked. -/
inductive Raised : Fault → Scene (Watched ε) → Scene (Watched ε) → Prop
  | fetch {f : FetchFault} {s s' : Scene (Watched ε)} (h : Since s s') : Raised (.fetch f) s s'
  | rootless {s s' : Scene (Watched ε)} (h : ¬ Rooted s'.context.history) :
      Raised (.specifier .emptyPackageName) s s'
  | overlong {s s' : Scene (Watched ε)} (h : Since s s') (hl : Overlong s'.env.log) :
      Raised .integerTooLong s s'

theorem Since.trans {s s' s'' : Scene (Watched ε)} (h : Since s s') (h' : Since s' s'') :
    Since s s'' where
  options := h'.options.trans h.options
  log := List.Subset.trans h.log h'.log
  rooted := h'.rooted ∘ h.rooted

theorem Since.refl (s : Scene (Watched ε)) : Since s s := ⟨rfl, List.Subset.refl _, id⟩

def regime (ε : Type) : FaultRegime (Watched ε) where
  asks _ _ := True
  answers request s answer s' := s'.options = s.options ∧ s'.context = s.context ∧
    s'.env.log = .answered request answer :: s.env.log ∧
    ∀ fault, answer = .error fault → ∃ f, fault = .fetch f
  valid s := s.options.handlers.errors = true
  since := Since
  refl := Since.refl
  trans := Since.trans
  valid_of_since h hv := h.options ▸ hv
  raised := Raised
  raised_of_since hs h := by
    cases h with
    | fetch h => exact .fetch (hs.trans h)
    | rootless h => exact .rootless h
    | overlong h hl => exact .overlong (hs.trans h) hl

/-- A walk comes through, or raises what the regime allows. -/
abbrev Comes (w : Walk (Watched ε) α) (s : Scene (Watched ε)) (Q : α → Scene (Watched ε) → Prop) :
    Prop := w.Settles (regime ε) s Q

variable {s : Scene (Watched ε)}

theorem since_env {env : Watched ε} (h : s.env.log ⊆ env.log) : Since s { s with env := env } :=
  ⟨rfl, h, id⟩

theorem since_mark (key : String) : Since s { s with context := s.context.mark key } :=
  ⟨rfl, List.Subset.refl _, fun h => by rwa [Context.history_mark]⟩

theorem since_record {m : Milestone}
    (hm : ∀ package version path text budget, m = .expanded package version path text budget →
      ¬ ImportsRootless text) : Since s { s with context := s.context.record m } :=
  ⟨rfl, List.Subset.refl _, (rooted_record hm).mpr⟩

theorem since_injected {path text : String} {s' : Scene (Watched ε)}
    (h : Injected c.watched path text s (.ok ()) s') : Since s s' where
  options := h.options_eq
  log _ := h.log_subset _
  rooted hr := by rwa [h.history_eq]

theorem since_left {s s' : Scene (Watched ε)} (h : Since s s') :
    Since s { s' with context := s'.context.record .left } :=
  h.trans (since_record (by rintro _ _ _ _ _ ⟨⟩))

theorem raised_left {fault : Fault} {s s' : Scene (Watched ε)} (h : Raised fault s s') :
    Raised fault s { s' with context := s'.context.record .left } := by
  cases h with
  | fetch h => exact .fetch (since_left h)
  | rootless h => exact .rootless fun hr => h ((rooted_record (by rintro _ _ _ _ _ ⟨⟩)).mp hr)
  | overlong h hl => exact .overlong (since_left h) hl

def Legible (log : List Observation) (package path : String) (o : Option Value) : Prop :=
  ∀ value, o = some value → ∃ text, value = .text text ∧ Seen log package path (some (.text text))

theorem Legible.mono {log log' : List Observation} (hl : log ⊆ log') {package path : String}
    {o : Option Value} (h : Legible log package path o) : Legible log' package path o := by
  intro value ho
  obtain ⟨text, hv, hseen⟩ := h value ho
  exact ⟨text, hv, hseen.mono hl⟩

def HasText (o : Option (Value × String)) : Prop := ∀ file, o = some file → ∃ text, file.1 = .text text

theorem hasText_none : HasText none := fun _ h => nomatch h

theorem hasText_some (text path : String) : HasText (some (.text text, path)) := by
  rintro _ ⟨⟩
  exact ⟨text, rfl⟩

/-- An expansion that comes through wherever it begins. -/
def Meets (enter : Enter (Watched ε)) : Prop := ∀ w s, Comes (enter w) s fun _ _ => True

/-- Where an expansion is allowed, it is one of those. -/
def Passable (o : Option (Enter (Watched ε))) : Prop := ∀ enter, o = some enter → Meets enter

/-! ## Parts without collaborators -/

theorem textOf (text : String) :
    Comes (textOf (.text text)) s fun text' s' => text' = text ∧ s' = s := .pure ⟨rfl, rfl⟩

theorem readManifest {package directory text : String}
    (h : Seen s.env.log package (Path.join [directory, "package.json"]) (some (.text text))) :
    Comes (Walk.ofExcept (Manifest.read package text)) s fun _ _ => True := by
  refine .ofExcept (fun _ _ => trivial) fun fault hf => ?_
  rcases Manifest.fault_of_read hf with ⟨f, rfl⟩ | rfl
  · exact .fetch (.refl s)
  · exact .overlong (.refl s) ⟨package, directory, text, h, hf⟩

theorem mark (key : String) : Comes (mark key) s fun _ _ => True := .change (since_mark key) trivial

theorem once {resource : Resource} {package : String} {f : String → Walk (Watched ε) Unit}
    (h : ∀ key s, Comes (f key) s fun _ _ => True) :
    Comes (once resource package f) s fun _ _ => True := by
  refine .read (.read ?_)
  split
  · exact .pure trivial
  · exact h _ s

theorem visitFile {enter : Enter (Watched ε)} (he : Meets enter) (w : Wanted) :
    Comes (visitFile enter w) s fun _ _ => True :=
  once fun key _ => .bind (mark key) fun _ s₂ _ _ => he w s₂

section Parts

variable (hc : Tame c)
include hc

/-! ## Single files -/

theorem report (u : Update) : Comes (report c.watched u) s fun _ _ => True := by
  refine .read ?_
  split
  · exact .act (hc.onUpdate u s.env.env) (since_env (List.Subset.refl _)) trivial
  · exact .pure trivial

theorem retrieve (package path : String) :
    Comes (retrieve c.watched package path) s fun o s' => Legible s'.env.log package path o := by
  let key := Package.fileKey package (s.pins.version? package) path
  obtain ⟨held, hheld⟩ := hc.cached key s.env.env
  refine .read (.bind (Q := fun o s' => Legible s'.env.log package path o) ?_ fun o s₁ _ ho => ?_)
  · refine .act hheld (since_env (List.subset_cons_self ..)) fun value hv => ?_
    obtain ⟨text, rfl, rfl⟩ := Option.map_eq_some_iff.mp hv
    have hm : Observation.cached key (.ok (some (.text text))) ∈
        Observation.cached key (c.cached key s.env.env).1 :: s.env.log :=
      List.mem_cons.mpr (.inl (congrArg _ hheld.symm))
    exact ⟨text, rfl, .cached hm⟩
  · cases o with
    | some value => exact .bind (report hc _) fun _ s₂ hs₂ _ => .pure (ho.mono hs₂.log)
    | none =>
      refine .bind (Q := fun answer s' => Legible s'.env.log package path (answer.map .text)) ?_
        fun answer s₂ _ ha => ?_
      · refine .request trivial fun answer s' ⟨hoptions, hcontext, hlog, hfault⟩ => ?_
        have hs : Since s₁ s' := ⟨hoptions, hlog ▸ List.subset_cons_self .., hcontext ▸ id⟩
        cases answer with
        | error fault =>
          obtain ⟨f, rfl⟩ := hfault fault rfl
          exact .fetch hs
        | ok answer =>
          refine ⟨hs, fun value hv => ?_⟩
          obtain ⟨text, rfl, rfl⟩ := Option.map_eq_some_iff.mp hv
          have hm : Observation.answered _ (.ok (some text)) ∈ s'.env.log :=
            hlog ▸ List.mem_cons_self ..
          exact ⟨text, rfl, .answered hm⟩
      · cases answer with
        | none => exact .pure ha
        | some text =>
          refine .bind (Q := fun _ _ => True) ?_ fun _ s₃ hs₃ _ => ?_
          · exact .act (hc.store _ _ _) (since_env (List.Subset.refl _)) trivial
          · exact .bind (report hc _) fun _ s₄ hs₄ _ => .pure (ha.mono (hs₃.trans hs₄).log)

theorem inject_eq_ok (path text : String) (s : Scene (Watched ε)) :
    ∃ s', inject c.watched path text s = .done (.ok ()) s' ∧
      Injected c.watched path text s (.ok ()) s' := by
  obtain ⟨result, s', he, hi⟩ := inject_eq_done (c := c.watched) path text s
  obtain ⟨held, hheld⟩ := hc.hosted path s.env.env
  cases hi with
  | unreadable h => cases hheld.symm.trans h
  | present h => exact ⟨_, he, .present h⟩
  | refused h hf => cases (hc.host _ _ _).symm.trans hf
  | placed h hf hn => exact ⟨_, he, .placed h hf hn⟩

theorem inject (path text : String) : Comes (inject c.watched path text) s fun _ _ => True := by
  obtain ⟨s', he, hi⟩ := inject_eq_ok hc path text s
  exact .of_eq_done he ⟨since_injected hi, trivial⟩

/-! ## Entries of packages -/

theorem pin (package version : String) : Comes (pin c.watched package version) s fun _ _ => True := by
  refine .read ?_
  dsimp only
  split
  · exact .pure trivial
  · refine .bind (.setPins (Q := fun _ _ => True) ⟨rfl, List.Subset.refl _, id⟩ trivial)
      fun _ s₁ _ _ => .read ?_
    split
    · exact .act (hc.onVersions _ s₁.env.env) (since_env (List.Subset.refl _)) trivial
    · exact .pure trivial

theorem manifestEntry {package place directory subPath : String} {content : Value} {typed : Bool}
    (h : Legible s.env.log package (Path.join [place, "package.json"]) (some content)) :
    Comes (manifestEntry c.watched package directory subPath content typed) s fun _ _ => True := by
  obtain ⟨text, rfl, hseen⟩ := h content rfl
  refine .bind (textOf text) fun _ _ _ ht => ?_
  obtain ⟨rfl, rfl⟩ := ht
  refine .bind (readManifest hseen) fun manifest s₁ _ _ => ?_
  cases manifest.entry? with
  | none => exact .pure trivial
  | some entry =>
    refine .bind (inject hc _ _) fun _ s₂ _ _ => ?_
    have reported : ∀ s', Comes (do
        Resolution.report c.watched (.lookedUpPackage package typed true)
        pure (some ⟨package, "", entryPath directory subPath entry⟩) : Walk _ (Option Wanted)) s'
          fun _ _ => True := fun s' => .bind (report hc _) fun _ _ _ _ => .pure trivial
    cases manifest.version? with
    | none => exact .bind (Q := fun _ _ => True) (.pure trivial) fun _ s₃ _ _ => reported s₃
    | some version =>
      refine .bind (pin hc _ _) fun _ s₃ _ _ => ?_
      obtain ⟨known, hknown⟩ := hc.isCached
        (Package.fileKey package (some version) (Path.join [directory, "package.json"])) s₃.env.env
      refine .bind (Q := fun _ _ => True)
        (.act hknown (since_env (List.Subset.refl _)) trivial) fun known s₄ _ _ => ?_
      split
      · refine .bind (Q := fun _ _ => True) ?_ fun _ s₅ _ _ => reported s₅
        exact .act (hc.store _ _ _) (since_env (List.Subset.refl _)) trivial
      · exact reported s₄

theorem manifestFor (package subPath : String) :
    Comes (manifestFor c.watched package subPath) s fun o s' => ∀ found, o = some found →
      ∃ place, Legible s'.env.log package (Path.join [place, "package.json"]) (some found.1) := by
  refine .bind (retrieve hc _ _) fun o s₁ _ ho => ?_
  cases o with
  | some content =>
    refine .pure ?_
    rintro _ ⟨⟩
    exact ⟨_, ho⟩
  | none =>
    dsimp only
    split
    · exact .pure fun _ h => nomatch h
    · refine .bind (retrieve hc _ _) fun o s₂ _ ho => .pure fun found hf => ?_
      obtain ⟨content, rfl, rfl⟩ := Option.map_eq_some_iff.mp hf
      exact ⟨"", ho⟩

theorem typedEntry (package subPath : String) :
    Comes (typedEntry c.watched package subPath) s fun _ _ => True := by
  refine .bind (retrieve hc _ _) fun o s₁ _ ho => ?_
  cases o with
  | none => exact .pure trivial
  | some content =>
    have hlegible : Legible s₁.env.log (Package.definitelyTyped package)
        (Path.join ["", "package.json"]) (some content) := ho
    exact manifestEntry hc hlegible

theorem ownOrTypedEntry (package subPath : String) :
    Comes (ownOrTypedEntry c.watched package subPath) s fun _ _ => True := by
  refine .bind (manifestFor hc _ _) fun o s₁ _ ho => ?_
  match o, ho with
  | none, _ => exact .pure trivial
  | some (content, directory), ho =>
    obtain ⟨place, hlegible⟩ := ho _ rfl
    refine .bind (manifestEntry hc hlegible) fun o s₂ _ _ => ?_
    cases o with
    | some entry => exact .pure trivial
    | none => exact typedEntry hc package subPath

theorem packageEntry (package subPath : String) :
    Comes (packageEntry c.watched package subPath) s fun _ _ => True := by
  have rest : ∀ (o : Option Wanted) s₁, Comes (do
      if o.isNone then Resolution.report c.watched (.lookedUpPackage package false false)
      return o : Walk _ (Option Wanted)) s₁ fun _ _ => True := fun o s₁ => by
    dsimp only
    split
    · exact .bind (report hc _) fun _ _ _ _ => .pure trivial
    · exact .pure trivial
  refine .read ?_
  dsimp only
  split
  · exact .bind (Q := fun _ _ => True) (.pure trivial) fun o s₁ _ _ => rest o s₁
  · exact .bind (ownOrTypedEntry hc _ _) fun o s₁ _ _ => rest o s₁

/-! ## Files of imports -/

theorem exactly (package path : String) :
    Comes (exactly c.watched package path) s fun o _ => HasText o := by
  refine .bind (retrieve hc _ _) fun o s₁ _ ho => ?_
  cases o with
  | none => exact .pure hasText_none
  | some content =>
    obtain ⟨text, rfl, _⟩ := ho content rfl
    exact .bind (report hc _) fun _ _ _ _ => .pure (hasText_some text path)

theorem firstOf (package path : String) (endings : List String) :
    Comes (firstOf c.watched package path endings) s fun o _ => HasText o := by
  induction endings generalizing s with
  | nil => exact .pure hasText_none
  | cons ending rest ih =>
    refine .bind (retrieve hc _ _) fun o s₁ _ ho => .bind (report hc _) fun _ s₂ _ _ => ?_
    cases o with
    | none => exact ih
    | some content =>
      obtain ⟨text, rfl, _⟩ := ho content rfl
      exact .bind (report hc _) fun _ _ _ _ => .pure (hasText_some text _)

theorem inDirectory (package path : String) :
    Comes (inDirectory c.watched package path) s fun o _ => HasText o := by
  refine .bind (retrieve hc _ _) fun o s₁ _ ho => ?_
  cases o with
  | none => exact .pure hasText_none
  | some content =>
    obtain ⟨text, rfl, hseen⟩ := ho content rfl
    refine .bind (textOf text) fun _ _ _ ht => ?_
    obtain ⟨rfl, rfl⟩ := ht
    refine .bind (readManifest hseen) fun manifest s₂ _ _ => ?_
    cases manifest.types? with
    | none => exact .pure hasText_none
    | some types => exact exactly hc package _

theorem orInDirectory (package path : String) {o : Option (Value × String)} (ho : HasText o) :
    Comes (orInDirectory c.watched package path o) s fun o _ => HasText o := by
  cases o with
  | some file => exact .pure ho
  | none =>
    refine .bind (inDirectory hc _ _) fun o _ _ ho => ?_
    cases o with
    | some file => exact .pure ho
    | none => exact .bind (report hc _) fun _ _ _ _ => .pure hasText_none

theorem sourceFile (w : Wanted) : Comes (sourceFile c.watched w) s fun o _ => HasText o := by
  rw [sourceFile_eq]
  split
  · exact .bind (report hc _) fun _ _ _ _ => .pure hasText_none
  · split
    · exact .bind (exactly hc _ _) fun _ _ _ ho => orInDirectory hc _ _ ho
    · exact .bind (firstOf hc _ _ _) fun _ _ _ ho => orInDirectory hc _ _ ho

/-! ## Dependencies -/

theorem openPackage {enter : Enter (Watched ε)} (he : Meets enter) (package subPath key : String) :
    Comes (openPackage c.watched enter package subPath key) s fun _ _ => True := by
  refine .bind (mark key) fun _ _ _ _ => .bind (packageEntry hc _ _) fun o s₁ _ _ => ?_
  refine .read (.bind (mark _) fun _ s₂ _ _ => ?_)
  cases o with
  | none => exact .pure trivial
  | some w => exact .read (.bind (mark _) fun _ s₃ _ _ => he w s₃)

theorem visitPackage {enter : Enter (Watched ε)} (he : Meets enter) (package subPath : String) :
    Comes (visitPackage c.watched enter package subPath) s fun _ _ => True := by
  refine once fun key _ => .read ?_
  split
  · refine .bind (once fun rootKey s₂ => openPackage hc he package "" rootKey) fun _ s₂ _ _ => ?_
    exact openPackage hc he package subPath key
  · exact openPackage hc he package subPath key

theorem visit {cross step : Option (Enter (Watched ε))} (hcross : Passable cross)
    (hstep : Passable step) (home : Option String) (r : Resource) :
    Comes (visit c.watched cross step home r) s fun _ _ => True := by
  rcases visit_cases c.watched cross step home r with ⟨hr, _⟩ | ⟨enter, hway, htaken⟩
  · rw [hr]
    exact .pure trivial
  · have he := hway.elim (fun h => hcross enter h.1) fun h => hstep enter h.1
    generalize Resolution.visit c.watched cross step home r = walk at htaken ⊢
    cases htaken with
    | package package subPath => exact visitPackage hc he package subPath
    | file => exact visitFile he _

/-! ## Expansions -/

/-- A text is put down as expanded and handed to the host before its imports are told, and then it may
turn out that one of them names nothing. -/
theorem expandText {budget : Remaining} {cross step : Option (Enter (Watched ε))}
    (hcross : Passable cross) (hstep : Passable step) (package : String) (version : Option String)
    (path text : String) :
    Comes (do
      Walk.change fun context => context.record (.expanded package version path text budget)
      Resolution.inject c.watched (Package.hostPath package path) text
      let dependencies ← importsOf text (.resource (.inPackage package (Path.dirname path) ""))
      Walk.each (Resolution.visit c.watched cross step (some package)) dependencies) s
      fun _ _ => True := by
  have hparent : Specifier.Parent.Possible (.resource (.inPackage package (Path.dirname path) "")) :=
    trivial
  rcases importsOf_eq (Watched ε) text hparent with ⟨hr, he⟩ | ⟨hr, rs, he⟩
  -- The milestone breaks what `Since` keeps, so the steps up to the fault are taken at once.
  · rw [he]
    obtain ⟨s', hinject, hi⟩ := inject_eq_ok hc (Package.hostPath package path) text
      { s with context := s.context.record (.expanded package version path text budget) }
    have hrooted : ¬ Rooted s'.context.history := fun h => by
      refine h package version path text budget ?_ hr
      rw [hi.history_eq]
      exact List.mem_cons_self ..
    refine .of_eq_done ?_ (show (regime ε).Settled s _ (.error _) s' from .rootless hrooted)
    show Step.andThen _ (Resolution.inject c.watched _ _ _) = _
    rw [hinject]
    rfl
  · rw [he]
    refine .bind (.change (Q := fun _ _ => True) (since_record ?_) trivial) fun _ _ _ _ => ?_
    · rintro _ _ _ _ _ ⟨⟩
      exact hr
    · refine .bind (inject hc _ _) fun _ _ _ _ => ?_
      refine .bind (.pure (Q := fun _ _ => True) trivial) fun rs _ _ _ => ?_
      exact .each fun r _ _ => visit hc hcross hstep _ r

theorem expand {budget : Remaining} {cross step : Option (Enter (Watched ε))}
    (hcross : Passable cross) (hstep : Passable step) (w : Wanted) :
    Comes (expand c.watched budget cross step w) s fun _ _ => True := by
  refine .bind (sourceFile hc w) fun o s₁ _ ho => ?_
  match o, ho with
  | none, _ => exact .pure trivial
  | some (content, path), ho =>
    obtain ⟨text, rfl⟩ : ∃ text, content = .text text := ho _ rfl
    refine .read (.read ?_)
    split
    · exact .pure trivial
    · refine .bind (.pure (Q := fun _ _ => True) trivial) fun text _ _ _ => ?_
      exact expandText hc hcross hstep w.package _ path text

theorem expandMarked {budget : Remaining} {cross step : Option (Enter (Watched ε))}
    (hcross : Passable cross) (hstep : Passable step) :
    Meets (expandMarked c.watched budget cross step) := by
  intro w s
  refine .bind (.change (Q := fun _ _ => True) (since_record ?_) trivial) fun _ s₁ _ _ => ?_
  · rintro _ _ _ _ _ ⟨⟩
  · refine .closing (expand hc hcross hstep w) fun result s₂ hr => ?_
    cases result with
    | ok _ => exact ⟨since_left hr.1, trivial⟩
    | error fault => exact raised_left hr

theorem expandMarked_of_descends (fileSteps crossings steps : Nat)
    (cross step : Option (Enter (Watched ε)))
    (hd : Descends (fun _ _ => Meets) fileSteps crossings steps cross step) :
    Meets (Resolution.expandMarked c.watched ⟨crossings, steps⟩ cross step) :=
  expandMarked hc hd.cross_holds hd.step_holds

theorem across_passable (fileSteps crossings : Nat) :
    Passable (across c.watched fileSteps crossings) :=
  across_holds (expandMarked_of_descends hc fileSteps) crossings

theorem along_passable (fileSteps crossings steps : Nat) :
    Passable (along c.watched crossings (across c.watched fileSteps crossings) steps) :=
  along_holds (expandMarked_of_descends hc fileSteps) crossings steps

/-! ## Branches -/

theorem branch {cross step : Option (Enter (Watched ε))} (hcross : Passable cross)
    (hstep : Passable step) (home : Option String) (r : Resource) :
    (branch c.watched cross step home r).Settles ((regime ε).beyond fun fault => fault.handled?.isSome)
      s fun _ _ => True := by
  refine .rescue (visit hc hcross hstep home r) fun fault s' hv hr => ?_
  cases hr with
  | @fetch f _ _ h =>
    have hhandled : s'.options.handlers.errors = true := h.options ▸ hv
    have hhandle : handle c.watched (.fetch f) s' = .done (.ok ())
        { s' with env := (c.watched.onError f.message s'.env).2 } := by
      unfold handle
      simp [bind, Walk.bind, Walk.scene, Step.andThen, Fault.handled?, hhandled, Walk.act,
        Collaborators.watched, Watched.note, hc.onError]
    rw [hhandle]
    exact ⟨h.trans (since_env (List.subset_cons_self ..)), trivial⟩
  | rootless h => exact ⟨.rootless h, by simp [Fault.handled?]⟩
  | overlong h hl => exact ⟨.overlong h hl, by simp [Fault.handled?]⟩

end Parts

theorem branches (hc : Tame c) {cross step : Option (Enter (Watched ε))} (hcross : Passable cross)
    (hstep : Passable step) (home : Option String) (rs : List Resource) {s₀ : Scene ε}
    {source : String} (hv : (regime ε).valid s) (hs : Rooted s.context.history)
    (hpins : ¬ (s₀.options.preloadPackages = true ∧ "" ∈ s₀.pins.keys))
    (hsource : ¬ ImportsRootless source) :
    (Walk.each (Resolution.branch c.watched cross step home) rs s).Ends (regime ε).toRegime
      (Contained s₀ source) := by
  have hrooted : ∀ {s'}, Since s s' → ¬ NamesNothing s₀ source s'.context.history := fun h hn => by
    cases hn with
    | preloaded ho hm => exact hpins ⟨ho, hm⟩
    | source hr => exact hsource hr
    | expanded hr => exact hr (h.rooted hs)
  have heach : (Walk.each (Resolution.branch c.watched cross step home) rs).Settles _ s _ :=
    .each fun r _ s' => branch hc hcross hstep home r
  refine (heach.ends hv).mono fun result s' hr => ?_
  cases result with
  | ok _ => exact .returned (hrooted hr.1)
  | error fault =>
    obtain ⟨hraised, huncaught⟩ := hr
    cases hraised with
    | fetch h => exact absurd rfl huncaught
    | rootless h => exact .namesNothing (.expanded h)
    | overlong h hl => exact .overlong (hrooted h) hl

theorem pass (hc : Tame c) (source directory : String) (budget : Budget) {s : Scene ε}
    (hv : s.options.handlers.errors = true) :
    (Resolution.pass c.watched source (.directory directory) budget s.watched).Ends
      (regime ε).toRegime (Contained s source) := by
  let s₁ : Scene (Watched ε) := { s.watched with context := {} }
  let cross := across c.watched budget.initialFileDepth.toNat budget.packageDepth.toNat
  let step := along c.watched budget.packageDepth.toNat cross budget.fileDepth.toNat
  let take (first rest : List Resource) : Walk (Watched ε) Unit :=
    Walk.each (Resolution.branch c.watched cross step none) (first ++ rest)
  rw [pass_eq]
  show ((Walk.ofExcept (preloads s₁) >>= fun first =>
    importsOf source (.directory directory) >>= take first) s₁).Ends _ _
  rcases preloads_eq s₁ with ⟨⟨ho, hm⟩, he⟩ | ⟨hpins, first, he⟩
  · rw [he]
    exact .namesNothing (.preloaded ho hm)
  rw [he]
  show ((importsOf source (.directory directory) >>= take first) s₁).Ends _ _
  have hparent : Specifier.Parent.Possible (.directory directory) := trivial
  rcases importsOf_eq (Watched ε) source hparent with ⟨hr, he⟩ | ⟨hsource, rest, he⟩
  · rw [he]
    exact .namesNothing (.source hr)
  · rw [he]
    exact branches hc (across_passable hc _ _) (along_passable hc _ _ _) none (first ++ rest) hv
      (fun _ _ _ _ _ h => nomatch h) hpins hsource

end Containment

/-! ## Passes -/

def handling : Scene Workspace := atFirst { handlers := { errors := true } }

end DeclarationFetch.Resolution
