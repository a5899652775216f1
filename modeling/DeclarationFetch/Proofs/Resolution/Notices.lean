import DeclarationFetch.Proofs.Resolution.Mirror
import DeclarationFetch.Proofs.Resolution.Policy

/-! # Reports of the pins

The pins of a resolver are replaced by its passes and by its caller, and the handler is told each time.

* `Mappings`: the pins by reference, with a copy for the resolver and one for each report.
* `Noticed ε`: an environment with a notice of each report.
* `pass_noticed_mirrors`, `scene_setPins`, `unnoticed_called`: with the notices left out, passes and calls are
  those of the resolver.
* `Tells first notices pins`: notices that tell how the pins came to be what they are.
* `Tenure c first step`: passes of one resolver one after another, and calls that replace the pins at any
  time.
* `tenure_notices`: at each moment of a tenure the notices tell of the pins, and the resolver's mapping is
  no other's.
-/

namespace DeclarationFetch.Resolution

variable {ε α : Type} {c : Collaborators ε}

/-! ## Pins by reference -/

/-- The mappings that there are, by number: one that the resolver goes by, and those that it has given
away with a report. -/
structure Mappings where
  contents : List Pins
  own : Nat
  given : List Nat

namespace Mappings

def start (pins : Pins) : Mappings := ⟨[pins], 0, []⟩

def pins (m : Mappings) : Pins := m.contents.getD m.own {}

/-- New pins are copied for the resolver, and its copy is copied for the report. -/
def replace (m : Mappings) (pins : Pins) : Mappings :=
  ⟨m.contents ++ [pins, pins], m.contents.length, (m.contents.length + 1) :: m.given⟩

def edit (m : Mappings) (id : Nat) (pins : Pins) : Mappings :=
  { m with contents := m.contents.set id pins }

/-- The mapping of the resolver was not given away. -/
structure Apart (m : Mappings) : Prop where
  bounded : ∀ id ∈ m.given, id < m.contents.length
  kept : m.own ∉ m.given

theorem apart_start (pins : Pins) : (start pins).Apart where
  bounded _ h := nomatch h
  kept h := nomatch h

@[simp] theorem pins_start (pins : Pins) : (start pins).pins = pins := rfl

@[simp] theorem pins_replace (m : Mappings) (pins : Pins) : (m.replace pins).pins = pins := by
  simp [replace, Mappings.pins, List.getD_eq_getElem?_getD]

theorem Apart.replace {m : Mappings} (h : m.Apart) (pins : Pins) : (m.replace pins).Apart where
  bounded id hid := by
    have hlength : (m.replace pins).contents.length = m.contents.length + 2 := by simp [Mappings.replace]
    rw [hlength]
    cases List.mem_cons.mp hid with
    | inl hnew => omega
    | inr hold =>
      have hbound := h.bounded id hold
      omega
  kept hid := by
    have hid : m.contents.length ∈ (m.contents.length + 1) :: m.given := hid
    cases List.mem_cons.mp hid with
    | inl hnew => omega
    | inr hold => exact Nat.lt_irrefl _ (h.bounded _ hold)

theorem Apart.edit {m : Mappings} (h : m.Apart) (id : Nat) (pins : Pins) : (m.edit id pins).Apart where
  bounded other ho := by
    have hbound := h.bounded other ho
    simpa [Mappings.edit] using hbound
  kept := h.kept

theorem Apart.pins_edit {m : Mappings} (h : m.Apart) {id : Nat} (hid : id ∈ m.given) (pins : Pins) :
    (m.edit id pins).pins = m.pins := by
  have hne : id ≠ m.own := fun he => h.kept (he ▸ hid)
  simp [Mappings.edit, Mappings.pins, List.getD_eq_getElem?_getD, List.getElem?_set_ne hne]

end Mappings

/-! ## Notices -/

structure Notice where
  pins : Pins
  /-- What the pass had seen by then, if it was a pass that replaced them. -/
  seen : Option (List Observation)

/-- The pins that were reported last, or else the first ones. -/
def recorded (first : Pins) (notices : List Notice) : Pins :=
  (notices.head?.map Notice.pins).getD first

/-- The pins became others for one package only: it has the version now that was named by a manifest of the
package with an entry, which the cache or the source had returned. -/
structure Pinned (log : List Observation) (before after : Pins) (package version : String) : Prop where
  changed : before.get? package ≠ some (.text version)
  pinned : after.get? package = some (.text version)
  others : ∀ other, other ≠ package → after.get? other = before.get? other
  nonempty : version ≠ ""
  named : ∃ directory text manifest entry,
    Seen log package (Path.join [directory, "package.json"]) (some (.text text)) ∧
      Manifest.read package text = .ok manifest ∧ manifest.entry? = some entry ∧
        manifest.version? = some version

theorem Pinned.contains {log : List Observation} {before after : Pins} {package version : String}
    (h : Pinned log before after package version) {other : String} (ho : before.contains other) :
    after.contains other := by
  unfold Assoc.contains at ho ⊢
  by_cases he : other = package
  · rw [he, h.pinned]
    rfl
  · rw [h.others other he]
    exact ho

/-- Notices, the latest first, that tell how the pins came to be what they are. -/
inductive Tells (first : Pins) : List Notice → Pins → Prop
  | start : Tells first [] first
  | called {notices : List Notice} {before : Pins} (pins : Pins) (h : Tells first notices before) :
      Tells first (⟨pins, none⟩ :: notices) pins
  | pinned {notices : List Notice} {before after : Pins} {log : List Observation}
      {package version : String} (h : Tells first notices before)
      (hp : Pinned log before after package version) :
      Tells first (⟨after, some log⟩ :: notices) after

namespace Tells

variable {first pins : Pins} {notices later earlier : List Notice}

theorem recorded_eq (h : Tells first notices pins) : recorded first notices = pins := by
  cases h <;> rfl

theorem of_cons {notice : Notice} (h : Tells first (notice :: notices) pins) :
    Tells first notices (recorded first notices) := by
  cases h with
  | called _ h => exact h.recorded_eq.symm ▸ h
  | pinned h _ => exact h.recorded_eq.symm ▸ h

theorem of_append (h : Tells first (later ++ earlier) pins) :
    Tells first earlier (recorded first earlier) := by
  induction later generalizing pins with
  | nil => exact h.recorded_eq.symm ▸ h
  | cons notice later ih => exact ih h.of_cons

theorem exists_pinned {notice : Notice} {log : List Observation}
    (h : Tells first (later ++ notice :: earlier) pins) (hs : notice.seen = some log) :
    ∃ package version, Pinned log (recorded first earlier) notice.pins package version := by
  have hnotice := h.of_append
  generalize recorded first (notice :: earlier) = now at hnotice
  cases hnotice with
  | called _ _ => cases hs
  | pinned hearlier hp =>
    cases hs
    exact ⟨_, _, hearlier.recorded_eq.symm ▸ hp⟩

theorem contains (h : Tells first (later ++ earlier) pins) (hl : ∀ notice ∈ later, notice.seen ≠ none)
    {package : String} (hp : (recorded first earlier).contains package) : pins.contains package := by
  induction later generalizing pins with
  | nil => exact h.recorded_eq ▸ hp
  | cons notice later ih =>
    have hearlier := ih h.of_cons fun n hn => hl n (List.mem_cons_of_mem _ hn)
    generalize hnotices : notice :: (later ++ earlier) = notices at h
    cases h with
    | called _ _ =>
      cases hnotices
      exact absurd rfl (hl _ (List.mem_cons_self ..))
    | pinned hbefore hpinned =>
      cases hnotices
      exact hpinned.contains (hbefore.recorded_eq ▸ hearlier)

end Tells

/-! ## The handler -/

/-- A watched environment with a notice of each report, the latest first. -/
structure Noticed (ε : Type) where
  env : Watched ε
  notices : List Notice
  mappings : Mappings

namespace Noticed

def keep (e : Noticed ε) (r : Except Fault α × Watched ε) : Except Fault α × Noticed ε :=
  (r.1, { e with env := r.2 })

def heard (e : Noticed ε) (env : Watched ε) (pins : Pins) (seen : Option (List Observation)) :
    Noticed ε :=
  ⟨env, ⟨pins, seen⟩ :: e.notices, e.mappings.replace pins⟩

end Noticed

def Collaborators.noticed (c : Collaborators ε) : Collaborators (Noticed ε) where
  cached key e := e.keep (c.watched.cached key e.env)
  isCached key e := e.keep (c.watched.isCached key e.env)
  store key text e := e.keep (c.watched.store key text e.env)
  hosted path e := e.keep (c.watched.hosted path e.env)
  host path text e := e.keep (c.watched.host path text e.env)
  makeRoom path e := e.keep (c.watched.makeRoom path e.env)
  onUpdate u e := e.keep (c.watched.onUpdate u e.env)
  onVersions pins e :=
    ((c.watched.onVersions pins e.env).1,
      e.heard (c.watched.onVersions pins e.env).2 pins (some e.env.log))
  onError message e := e.keep (c.watched.onError message e.env)

namespace Scene

/-! What a pass begins with, and what its caller and others make of its scene. -/

def noticed (s : Scene ε) : Scene (Noticed ε) := s.withEnv ⟨⟨s.env, []⟩, [], .start s.pins⟩

def unseen (s : Scene (Noticed ε)) : Scene (Noticed ε) :=
  { s with env := { s.env with env := ⟨s.env.env.env, []⟩ } }

def told (s : Scene (Noticed ε)) (request : Request) (answer : Answer) : Scene (Noticed ε) :=
  { s with env := { s.env with env := ⟨s.env.env.env, .answered request answer :: s.env.env.log⟩ } }

def called (c : Collaborators ε) (s : Scene (Noticed ε)) (pins : Pins) : Scene (Noticed ε) :=
  { s with
    pins := pins
    env := s.env.heard (c.watched.onVersions pins s.env.env).2 pins none }

def elsewhere (s : Scene (Noticed ε)) (options : Options) (context : Context) (env : ε) :
    Scene (Noticed ε) :=
  ⟨options, s.pins, context, { s.env with env := ⟨env, s.env.env.log⟩ }⟩

def edited (s : Scene (Noticed ε)) (id : Nat) (pins : Pins) : Scene (Noticed ε) :=
  { s with env := { s.env with mappings := s.env.mappings.edit id pins } }

def unnoticed (s : Scene (Noticed ε)) : Scene ε := s.withEnv s.env.env.env

theorem unnoticed_called {s : Scene (Noticed ε)} (h : s.options.handlers.versions = true) (pins : Pins) :
    (s.called c pins).unnoticed = s.unnoticed.repinned c pins := by
  have h' : s.unnoticed.options.handlers.versions = true := h
  unfold Scene.repinned
  rw [if_pos h']
  rfl

end Scene

/-- A resolver whose caller replaces the pins does what `called` says, its notices left out. -/
theorem scene_setPins (r : Resolver) (w : Workspace) (pins : Pins) :
    (r.setPins w pins).1.scene (r.setPins w pins).2 = (r.scene w).repinned r.collaborators pins := rfl

def Collaborators.unnoticing (c : Collaborators ε) : View c.noticed c :=
  .ofEnv (fun e => e.env.env) fun a _ => by cases a <;> rfl

theorem pass_noticed_mirrors (c : Collaborators ε) (source : String) (parent : Parent) (budget : Budget) :
    (pass c.noticed source parent budget).Mirrors Scene.unnoticed (pass c source parent budget) :=
  View.Handles.pass (V := c.unnoticing) ⟨fun _ => rfl, fun _ _ => rfl⟩ source parent budget

/-! ## What a pass keeps -/

/-- The handler is installed, the notices tell of the pins, and so does a mapping that is the resolver's
alone. -/
structure Accounted (first : Pins) (s : Scene (Noticed ε)) : Prop where
  listens : s.options.handlers.versions = true
  tells : Tells first s.env.notices s.pins
  apart : s.env.mappings.Apart
  held : s.env.mappings.pins = s.pins

namespace Accounted

variable {first : Pins} {s s' : Scene (Noticed ε)}

theorem start {s : Scene ε} (h : s.options.handlers.versions = true) : Accounted s.pins s.noticed :=
  ⟨h, .start, Mappings.apart_start _, rfl⟩

theorem of_eq (h : Accounted first s) (ho : s'.options.handlers.versions = true)
    (hp : s'.pins = s.pins) (hn : s'.env.notices = s.env.notices)
    (hm : s'.env.mappings = s.env.mappings) : Accounted first s' := by
  refine ⟨ho, ?_, ?_, ?_⟩
  · rw [hn, hp]
    exact h.tells
  · rw [hm]
    exact h.apart
  · rw [hm, hp]
    exact h.held

theorem called (h : Accounted first s) (pins : Pins) : Accounted first (s.called c pins) :=
  ⟨h.listens, .called pins h.tells, h.apart.replace pins, Mappings.pins_replace ..⟩

theorem edited (h : Accounted first s) {id : Nat} (hid : id ∈ s.env.mappings.given) (pins : Pins) :
    Accounted first (s.edited id pins) :=
  ⟨h.listens, h.tells, h.apart.edit id pins, (h.apart.pins_edit hid pins).trans h.held⟩

theorem repinned (h : Accounted first s) {after : Pins} {package version : String}
    (hp : Pinned s.env.env.log s.pins after package version) :
    Accounted first (s.repinned c.noticed after) := by
  unfold Scene.repinned
  rw [if_pos h.listens]
  exact ⟨h.listens, .pinned h.tells hp, h.apart.replace after, Mappings.pins_replace ..⟩

end Accounted

namespace Notices

variable {first : Pins} {s s' : Scene (Noticed ε)}

/-- Nothing of what was observed is lost, and the notices go on telling of the pins. -/
structure Since (first : Pins) (s s' : Scene (Noticed ε)) : Prop where
  log : s.env.env.log ⊆ s'.env.env.log
  accounted : Accounted first s → Accounted first s'

theorem Since.quiet (hl : s.env.env.log ⊆ s'.env.env.log) (ho : s'.options = s.options)
    (hp : s'.pins = s.pins) (hn : s'.env.notices = s.env.notices)
    (hm : s'.env.mappings = s.env.mappings) : Since first s s' :=
  ⟨hl, fun h => h.of_eq (ho ▸ h.listens) hp hn hm⟩

theorem Since.keep {r : Except Fault α × Watched ε} (hl : s.env.env.log ⊆ r.2.log) :
    Since first s { s with env := (s.env.keep r).2 } := .quiet hl rfl rfl rfl rfl

theorem Since.injected {path text : String} {result : Except Fault Unit}
    (h : Injected c.noticed path text s result s') : Since first s s' := by
  have hseen : s.env.env.log ⊆ .hosted path (c.hosted path s.env.env.env).1 :: s.env.env.log :=
    List.subset_cons_self ..
  have hplaced := List.Subset.trans hseen (List.subset_cons_self (.placed path text) _)
  cases h with
  | unreadable => exact .quiet hseen rfl rfl rfl rfl
  | present => exact .quiet hseen rfl rfl rfl rfl
  | refused => exact .quiet hplaced rfl rfl rfl rfl
  | placed => exact .quiet hplaced rfl rfl rfl rfl

def regime (ε : Type) (first : Pins) : Regime (Noticed ε) where
  asks _ := Accounted first
  answers request s answer s' :=
    s'.env.env.log = .answered request answer :: s.env.env.log ∧
      (Accounted first s → Accounted first s')
  valid := Accounted first
  since := Since first
  refl _ := ⟨List.Subset.refl _, id⟩
  trans h h' := ⟨List.Subset.trans h.log h'.log, h'.accounted ∘ h.accounted⟩
  valid_of_since h := h.accounted

def account (c : Collaborators ε) (first : Pins) : Account c.noticed where
  toRegime := regime ε first
  found s := Seen s.env.env.log
  pursued _ _ := True
  found_of_since hs h := h.mono hs.log
  pursued_of_since _ _ := trivial
  reported _ _ := .keep (List.Subset.refl _)
  cached _ _ := ⟨.keep (List.subset_cons_self ..), fun _ h => .cached (c.mem_log_cached h)⟩
  asked hv hs _ := hs.accounted hv
  answered {s₀ s s' package path answer} _ _ h := by
    refine ⟨⟨h.1 ▸ List.subset_cons_self .., h.2⟩, ?_⟩
    rintro o rfl
    exact .answered (h.1 ▸ List.mem_cons_self ..)
  stored _ _ _ := .keep (List.Subset.refl _)
  sought _ _ := .keep (List.Subset.refl _)
  injected _ _ _ hi := .injected hi
  pinned {s package directory text manifest entry version} _ _ _ hf hm he hver ha := by
    have hpinned : Pinned s.env.env.log s.pins (s.pins.insert package (.text version)) package version := by
      refine ⟨fun hsame => ?_, Assoc.get?_insert_self .., fun other ho => ?_,
        Manifest.version?_ne_empty hver, directory, text, manifest, entry, hf, hm, he, hver⟩
      · simp [Pins.agrees, hsame] at ha
      · rw [Assoc.get?_insert, if_neg ho.symm]
    refine ⟨?_, fun h => h.repinned hpinned⟩
    unfold Scene.repinned
    split <;> exact List.Subset.refl _
  looked _ _ := .keep (List.subset_cons_self ..)
  readied _ _ := .keep (List.subset_cons_self ..)
  failed _ _ := .keep (List.subset_cons_self ..)

theorem impartial (c : Collaborators ε) (first : Pins) : (account c first).Impartial where
  pursued _ _ := trivial
  marked _ _ := .quiet (List.Subset.refl _) rfl rfl rfl rfl
  recorded _ _ := .quiet (List.Subset.refl _) rfl rfl rfl rfl

end Notices

/-! ## Tenures -/

/-- Passes of one resolver one after another, with a notice of each report. The step is that of the last
pass. At any time, even while a pass waits, the caller may replace the pins, whoever has a mapping may
change it, and others may do what they like besides, as long as the handler stays installed. -/
inductive Tenure (c : Collaborators ε) (first : Pins) : Step (Noticed ε) Unit → Prop
  | start {s : Scene ε} (hh : s.options.handlers.versions = true) (hp : s.pins = first) :
      Tenure c first (.done (.ok ()) s.noticed)
  /-- The last pass has ended, or it waits and is given up. -/
  | begun {step : Step (Noticed ε) Unit} (source : String) (parent : Parent) (budget : Budget)
      (h : Tenure c first step) :
      Tenure c first (pass c.noticed source parent budget step.scene.unseen)
  | answered {request : Request} {s : Scene (Noticed ε)}
      {resume : Answer → Scene (Noticed ε) → Step (Noticed ε) Unit} (answer : Answer)
      (h : Tenure c first (.fetch request s resume)) :
      Tenure c first (resume answer (s.told request answer))
  | called {step : Step (Noticed ε) Unit} (pins : Pins) (h : Tenure c first step) :
      Tenure c first (step.within (step.scene.called c pins))
  | edited {step : Step (Noticed ε) Unit} {id : Nat} (hid : id ∈ step.scene.env.mappings.given)
      (pins : Pins) (h : Tenure c first step) :
      Tenure c first (step.within (step.scene.edited id pins))
  | elsewhere {step : Step (Noticed ε) Unit} {options : Options} (hh : options.handlers.versions = true)
      (context : Context) (env : ε) (h : Tenure c first step) :
      Tenure c first (step.within (step.scene.elsewhere options context env))

/-- Wherever a step stops the notices tell of the pins, however it goes on. -/
def Step.Accounts (first : Pins) (step : Step (Noticed ε) Unit) : Prop :=
  step.Ends (Notices.regime ε first) fun _ s => Accounted first s

namespace Step.Accounts

variable {first : Pins} {step : Step (Noticed ε) Unit}

theorem accounted (h : step.Accounts first) : Accounted first step.scene :=
  Step.Ends.scene h (fun _ _ ha => ha) fun _ _ ha => ha

theorem within (h : step.Accounts first) {s : Scene (Noticed ε)} (hs : Accounted first s)
    (hl : s.env.env.log = step.scene.env.env.log) : (step.within s).Accounts first := by
  refine Step.Ends.within h (fun _ => hs) (fun _ => hs) fun request answer s' ha => ⟨?_, fun _ => ha.2 hs⟩
  rw [← hl]
  exact ha.1

end Step.Accounts

theorem Tenure.accounts {first : Pins} {step : Step (Noticed ε) Unit} (h : Tenure c first step) :
    step.Accounts first := by
  -- On the moves; each of them leaves a scene that is accounted for, whatever the pass does next.
  induction h with
  | @start s hh hp =>
    subst hp
    exact Accounted.start hh
  | @begun step source parent budget h ih =>
    have hstart : Accounted first { step.scene.unseen with context := {} } :=
      ih.accounted.of_eq ih.accounted.listens rfl rfl rfl
    have hpass := (Notices.impartial c first).pass source parent budget hstart
    exact hpass.mono fun _ _ hs => hs.accounted hstart
  | @answered request s resume answer h ih =>
    exact ih.2 answer _ ⟨rfl, fun hs => hs.of_eq hs.listens rfl rfl rfl⟩
  | called pins h ih => exact ih.within (ih.accounted.called pins) rfl
  | edited hid pins h ih => exact ih.within (ih.accounted.edited hid pins) rfl
  | elsewhere hh context env h ih => exact ih.within (ih.accounted.of_eq hh rfl rfl rfl) rfl

/-- At each moment of a tenure the pins are those that were reported last, if there was a report. Passes
alone take no package away. A pass that reports the pins has changed them for one package, to the version
that was named by a manifest of the package which it had seen. And the mapping that the resolver goes by is
what the pins are, whatever others have made of the mappings that they were given. -/
theorem tenure_notices {first : Pins} {step : Step (Noticed ε) Unit} (h : Tenure c first step) :
    let now := step.scene
    recorded first now.env.notices = now.pins ∧
    (∀ later earlier, now.env.notices = later ++ earlier → (∀ notice ∈ later, notice.seen ≠ none) →
      ∀ package, (recorded first earlier).contains package → now.pins.contains package) ∧
    (∀ later notice earlier log, now.env.notices = later ++ notice :: earlier →
      notice.seen = some log →
        ∃ package version, Pinned log (recorded first earlier) notice.pins package version) ∧
    now.env.mappings.pins = now.pins := by
  intro now
  have hnow : Accounted first now := h.accounts.accounted
  refine ⟨hnow.tells.recorded_eq, ?_, ?_, hnow.held⟩
  · intro later earlier heq hl package hp
    have htells : Tells first (later ++ earlier) now.pins := heq ▸ hnow.tells
    exact htells.contains hl hp
  · intro later notice earlier log heq hs
    have htells : Tells first (later ++ notice :: earlier) now.pins := heq ▸ hnow.tells
    exact htells.exists_pinned hs

/-! ## An example -/

namespace Renewed

def manifest : String := "\x7b\"types\":\"index.d.ts\",\"version\":\"1.0.0\"\x7d"

def options : Options := { handlers := { versions := true } }

def answered (answer : Answer) : Step (Noticed Workspace) Unit → Step (Noticed Workspace) Unit
  | .fetch request s resume => resume answer (s.told request answer)
  | step => step

def called (pins : Pins) (step : Step (Noticed Workspace) Unit) : Step (Noticed Workspace) Unit :=
  step.within (step.scene.called inMemory pins)

def edited (id : Nat) (pins : Pins) (step : Step (Noticed Workspace) Unit) : Step (Noticed Workspace) Unit :=
  step.within (step.scene.edited id pins)

/-- A pass that waits for the entry of a package, which its manifest has pinned. -/
def waiting : Step (Noticed Workspace) Unit :=
  answered (.ok (some manifest))
    (pass inMemory.noticed "require('p')" (.directory "/") options.budget (atFirst options).noticed.unseen)

/-- The mapping that was reported is emptied, the caller pins another package, and the pass fails. -/
def now : Step (Noticed Workspace) Unit :=
  answered (.error (.fetch (.unreachable "p/index.d.ts" "connection reset")))
    (called ⟨[("q", .text "2.0.0")]⟩ (edited 2 {} waiting))

theorem tenure_answered {step : Step (Noticed Workspace) Unit} (answer : Answer)
    (h : Tenure inMemory {} step) : Tenure inMemory {} (answered answer step) := by
  cases step with
  | done result s => exact h
  | fetch request s resume => exact h.answered answer

theorem tenure_now : Tenure inMemory {} now := by
  have hstart : Tenure inMemory {} (.done (.ok ()) (atFirst options).noticed) := .start rfl rfl
  have hwaiting : Tenure inMemory {} waiting := tenure_answered _ (hstart.begun _ _ _)
  have hgiven : 2 ∈ waiting.scene.env.mappings.given := by decide +kernel
  exact tenure_answered _ ((hwaiting.edited hgiven {}).called _)

/-- Of the two reports the pass has made the first one. -/
theorem now_notices :
    recorded {} now.scene.env.notices = now.scene.pins ∧
    now.scene.pins.keys = ["q"] ∧
    now.scene.env.mappings.pins = now.scene.pins ∧
    ∃ notice log package version, notice ∈ now.scene.env.notices ∧ notice.seen = some log ∧
      Pinned log {} notice.pins package version := by
  have hnotices : (now.scene.env.notices.map fun notice => (notice.pins.keys, notice.seen.isSome)) =
      [(["q"], false), (["p"], true)] := by decide +kernel
  obtain ⟨last, rest, hlast, -, hrest⟩ := List.map_eq_cons_iff.mp hnotices
  obtain ⟨notice, before, rfl, hnotice, hbefore⟩ := List.map_eq_cons_iff.mp hrest
  obtain rfl := List.map_eq_nil_iff.mp hbefore
  obtain ⟨log, hlog⟩ := Option.isSome_iff_exists.mp (Prod.mk.inj hnotice).2
  obtain ⟨hrecorded, -, hpinned, hheld⟩ := tenure_notices tenure_now
  obtain ⟨package, version, hp⟩ := hpinned [last] notice [] log hlast hlog
  have hmem : notice ∈ now.scene.env.notices := by
    rw [hlast]
    simp
  exact ⟨hrecorded, by decide +kernel, hheld, notice, log, package, version, hmem, hlog, hp⟩

end Renewed

end DeclarationFetch.Resolution
