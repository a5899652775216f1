import DeclarationFetch.Proofs.Resolution.Policy
import DeclarationFetch.Proofs.Resolution.Watch

/-! # What a pass reaches

Every file that a pass expands is the end of a chain of dependencies that keeps to the budget, and its
text is the one that the cache or the source returned.

* `Due found first preload steps through n k r`: the chains, with the crossings `n` and the steps `k`
  since the last crossing on the way to the dependency `r`.
* `Reached`: the files at the ends of chains.
* `Sound`: what holds at every moment of a watched pass; `Reach.policy` keeps it.
* `pass_expanded_reached`: the chains and the texts of all files that are expanded.
-/

namespace DeclarationFetch.Resolution

variable {ε : Type} {c : Collaborators ε}

/-! ## Chains of dependencies -/

/-- The dependencies that come up behind so many crossings and so many steps since the last one, by way
of files that `through` allows. -/
inductive Due (found : Findings) (first : Resource → Prop) (preload : Bool) (fileSteps : Nat)
    (through : Nat → Nat → File → Prop) : Nat → Nat → Resource → Prop
  | first {r : Resource} (h : first r) : Due found first preload fileSteps through 1 0 r
  /-- With preloading, a path in a package brings up the package as a whole. -/
  | root {n k : Nat} {package subPath : String} (hp : preload = true)
      (h : Due found first preload fileSteps through n k (.package package subPath)) :
      Due found first preload fileSteps through n k (.package package "")
  | cross {n k : Nat} {r r' : Resource} {f : File}
      (h : Due found first preload fileSteps through n k r) (hl : Leads found r f)
      (ht : through n k f) (hi : f.Imports r') (hc : Crosses (some f.package) r') :
      Due found first preload fileSteps through (n + 1) 0 r'
  | stay {n k : Nat} {r r' : Resource} {f : File}
      (h : Due found first preload fileSteps through n k r) (hl : Leads found r f)
      (ht : through n k f) (hi : f.Imports r') (hs : Stays (some f.package) r')
      (hk : k < fileSteps) : Due found first preload fileSteps through n (k + 1) r'

/-- The files at the ends of such chains. -/
def Reached (found : Findings) (first : Resource → Prop) (preload : Bool) (fileSteps : Nat)
    (through : Nat → Nat → File → Prop) (n k : Nat) (f : File) : Prop :=
  ∃ r, Due found first preload fileSteps through n k r ∧ Leads found r f

def Anywhere (_ _ : Nat) (_ : File) : Prop := True

section Mono

variable {found found' : Findings} {first : Resource → Prop} {preload : Bool} {fileSteps n k : Nat}
  {through through' : Nat → Nat → File → Prop}
  (hf : ∀ package path o, found package path o → found' package path o)
  (ht : ∀ n k f, through n k f → through' n k f)
include hf ht

theorem Due.mono {r : Resource} (h : Due found first preload fileSteps through n k r) :
    Due found' first preload fileSteps through' n k r := by
  induction h with
  | first h => exact .first h
  | root hp _ ih => exact .root hp ih
  | cross _ hl hthrough hi hc ih => exact .cross ih (hl.mono hf) (ht _ _ _ hthrough) hi hc
  | stay _ hl hthrough hi hs hk ih => exact .stay ih (hl.mono hf) (ht _ _ _ hthrough) hi hs hk

theorem Reached.mono {f : File} (h : Reached found first preload fileSteps through n k f) :
    Reached found' first preload fileSteps through' n k f := by
  obtain ⟨r, hd, hl⟩ := h
  exact ⟨r, hd.mono hf ht, hl.mono hf⟩

end Mono

theorem Due.anywhere {found : Findings} {first : Resource → Prop} {preload : Bool}
    {fileSteps n k : Nat} {through : Nat → Nat → File → Prop} {r : Resource}
    (h : Due found first preload fileSteps through n k r) :
    Due found first preload fileSteps Anywhere n k r :=
  h.mono (fun _ _ _ => id) fun _ _ _ _ => trivial

/-! ## Soundness -/

namespace Reach

/-- What a pass is given: its options and first dependencies, and the crossings and steps. -/
structure Terms where
  options : Options
  first : Resource → Prop
  crossings : Nat
  fileSteps : Nat

structure Later (s s' : Scene (Watched ε)) : Prop where
  options : s'.options = s.options
  history : ∀ m ∈ s.context.history, m ∈ s'.context.history
  log : ∀ o ∈ s.env.log, o ∈ s'.env.log

theorem Later.trans {s s' s'' : Scene (Watched ε)} (h : Later s s') (h' : Later s' s'') :
    Later s s'' where
  options := h'.options.trans h.options
  history m hm := h'.history m (h.history m hm)
  log o ho := h'.log o (h.log o ho)

namespace Terms

variable (t : Terms) (s : Scene (Watched ε))

/-- A file was expanded with what is left of the budget behind so many crossings and steps. -/
def parsed (n k : Nat) (f : File) : Prop :=
  ∃ version budget, .expanded f.package version f.path f.text budget ∈ s.context.history ∧
    n + budget.crossings = t.crossings ∧ k + budget.steps = t.fileSteps

/-- The dependencies on chains through files that were expanded. -/
def due (n k : Nat) (r : Resource) : Prop :=
  Due (Seen s.env.log) t.first t.options.preloadPackages t.fileSteps (t.parsed s) n k r

def reached (n k : Nat) (f : File) : Prop :=
  Reached (Seen s.env.log) t.first t.options.preloadPackages t.fileSteps (t.parsed s) n k f

/-- The dependencies that come up on chains of any length. -/
def pursued (r : Resource) : Prop := ∃ n k, t.due s n k r

def route (package path : String) : Prop := Route (Seen s.env.log) (t.pursued s) package path

/-- A file is at the end of a chain that leaves the budget, with a text that was returned for it. -/
def expansion (f : File) (budget : Remaining) : Prop :=
  (∃ n k, n + budget.crossings = t.crossings ∧ k + budget.steps = t.fileSteps ∧ t.reached s n k f) ∧
    Seen s.env.log f.package f.path (some (.text f.text)) ∧
    Handed s.env.log (Package.hostPath f.package f.path) f.text

/-- A text goes where the file of a package belongs for which it was returned. -/
def placement (path text : String) : Prop :=
  ∃ package q, path = Package.hostPath package q ∧ t.route s package q ∧
    Seen s.env.log package q (some (.text text))

def readying (path : String) : Prop :=
  ∃ package q, path = Package.hostPath package q ∧ t.route s package q

variable {t s} {s' : Scene (Watched ε)} (hl : Later s s')
include hl

theorem parsed_mono {n k : Nat} {f : File} (h : t.parsed s n k f) : t.parsed s' n k f := by
  obtain ⟨version, budget, hm, hn, hk⟩ := h
  exact ⟨version, budget, hl.history _ hm, hn, hk⟩

theorem due_mono {n k : Nat} {r : Resource} (h : t.due s n k r) : t.due s' n k r :=
  Due.mono (fun _ _ _ => Seen.mono hl.log) (fun _ _ _ => parsed_mono hl) h

theorem reached_mono {n k : Nat} {f : File} (h : t.reached s n k f) : t.reached s' n k f :=
  Reached.mono (fun _ _ _ => Seen.mono hl.log) (fun _ _ _ => parsed_mono hl) h

theorem pursued_mono {r : Resource} (h : t.pursued s r) : t.pursued s' r := by
  obtain ⟨n, k, h⟩ := h
  exact ⟨n, k, due_mono hl h⟩

theorem route_mono {package path : String} (h : t.route s package path) :
    t.route s' package path :=
  Route.mono (fun _ _ _ => Seen.mono hl.log) (fun _ => pursued_mono hl) h

theorem expansion_mono {f : File} {budget : Remaining} (h : t.expansion s f budget) :
    t.expansion s' f budget := by
  obtain ⟨⟨n, k, hn, hk, hr⟩, hs, hh⟩ := h
  exact ⟨⟨n, k, hn, hk, reached_mono hl hr⟩, hs.mono hl.log, hh.mono hl.log⟩

theorem placement_mono {path text : String} (h : t.placement s path text) :
    t.placement s' path text := by
  obtain ⟨package, q, hp, hr, hs⟩ := h
  exact ⟨package, q, hp, route_mono hl hr, hs.mono hl.log⟩

theorem readying_mono {path : String} (h : t.readying s path) : t.readying s' path := by
  obtain ⟨package, q, hp, hr⟩ := h
  exact ⟨package, q, hp, route_mono hl hr⟩

end Terms

/-- What holds at every moment of a watched pass. -/
structure Sound (t : Terms) (s : Scene (Watched ε)) : Prop where
  options : s.options = t.options
  expanded : ∀ package version path text budget,
    .expanded package version path text budget ∈ s.context.history →
      t.expansion s ⟨package, path, text⟩ budget
  placed : ∀ path text, .placed path text ∈ s.env.log → t.placement s path text
  readied : ∀ path, .readied path ∈ s.env.log → t.readying s path

variable {t : Terms} {s s' : Scene (Watched ε)}

theorem Sound.grow (h : Sound t s) (hl : Later s s')
    (he : ∀ package version path text budget,
      .expanded package version path text budget ∈ s'.context.history →
        .expanded package version path text budget ∈ s.context.history ∨
          t.expansion s' ⟨package, path, text⟩ budget)
    (hp : ∀ path text, .placed path text ∈ s'.env.log →
      .placed path text ∈ s.env.log ∨ t.placement s' path text)
    (hr : ∀ path, .readied path ∈ s'.env.log →
      .readied path ∈ s.env.log ∨ t.readying s' path) : Sound t s' where
  options := hl.options.trans h.options
  expanded package version path text budget hm :=
    (he package version path text budget hm).elim
      (fun ho => Terms.expansion_mono hl (h.expanded package version path text budget ho)) id
  placed path text hm :=
    (hp path text hm).elim (fun ho => Terms.placement_mono hl (h.placed path text ho)) id
  readied path hm := (hr path hm).elim (fun ho => Terms.readying_mono hl (h.readied path ho)) id

/-- A later scene, sound if the one before is. -/
def Since (t : Terms) (s s' : Scene (Watched ε)) : Prop := Later s s' ∧ (Sound t s → Sound t s')

theorem Since.trans {s'' : Scene (Watched ε)} (h : Since t s s') (h' : Since t s' s'') :
    Since t s s'' :=
  ⟨h.1.trans h'.1, fun hs => h'.2 (h.2 hs)⟩

theorem Since.quiet (ho : s'.options = s.options) (hh : s'.context.history = s.context.history)
    (hl : s'.env.log = s.env.log) : Since t s s' := by
  have later : Later s s' := ⟨ho, fun m hm => hh ▸ hm, fun o hm => hl ▸ hm⟩
  refine ⟨later, fun h => h.grow later (fun _ _ _ _ _ hm => .inl (hh ▸ hm)) (fun _ _ hm => ?_)
    fun _ hm => ?_⟩
  · exact .inl (hl ▸ hm)
  · exact .inl (hl ▸ hm)

/-- One thing is observed, and what the host is given comes on a route. -/
theorem Since.noted {o : Observation} (ho : s'.options = s.options)
    (hh : s'.context.history = s.context.history) (hl : s'.env.log = o :: s.env.log)
    (hp : ∀ path text, o = .placed path text → Later s s' → t.placement s' path text)
    (hr : ∀ path, o = .readied path → Later s s' → t.readying s' path) : Since t s s' := by
  have later : Later s s' := ⟨ho, fun m hm => hh ▸ hm, fun o hm => hl ▸ List.mem_cons_of_mem _ hm⟩
  refine ⟨later, fun h => h.grow later (fun _ _ _ _ _ hm => .inl (hh ▸ hm)) (fun path text hm => ?_)
    fun path hm => ?_⟩
  · rw [hl] at hm
    exact (List.mem_cons.mp hm).elim (fun he => .inr (hp path text he.symm later)) .inl
  · rw [hl] at hm
    exact (List.mem_cons.mp hm).elim (fun he => .inr (hr path he.symm later)) .inl

/-- A file is put into the host, after a change to the context that only adds sound expansions. -/
theorem Since.injected {context : Context} {package q text : String} {result : Except Fault Unit}
    (hroute : t.route s package q) (hseen : Seen s.env.log package q (some (.text text)))
    (hi : Injected c.watched (Package.hostPath package q) text { s with context := context } result s')
    (hc : ∀ m ∈ s.context.history, m ∈ context.history)
    (he : Handed s'.env.log (Package.hostPath package q) text → Later s s' →
      ∀ package version path text budget,
        .expanded package version path text budget ∈ context.history →
          .expanded package version path text budget ∈ s.context.history ∨
            t.expansion s' ⟨package, path, text⟩ budget) : Since t s s' := by
  obtain ⟨held, hlog⟩ := hi.log_eq
  have later : Later s s' := ⟨hi.options_eq, fun m hm => hi.history_eq ▸ hc m hm, hi.log_subset⟩
  refine ⟨later, fun h => h.grow later ?_ (fun path text' hm => ?_) fun path hm => ?_⟩
  · rw [hi.history_eq]
    exact he hi.handed.1 later
  · rcases hlog with hlog | hlog
    · rw [hlog] at hm
      exact .inl (by simpa using hm)
    · rw [hlog] at hm
      rcases List.mem_cons.mp hm with hp | hm
      · obtain ⟨rfl, rfl⟩ := Observation.placed.inj hp
        exact .inr ⟨package, q, rfl, Terms.route_mono later hroute, hseen.mono later.log⟩
      · exact .inl (by simpa using hm)
  · rcases hlog with hlog | hlog <;> rw [hlog] at hm <;> exact .inl (by simpa using hm)

/-! ## The policy -/

def regime (ε : Type) (t : Terms) : Regime (Watched ε) where
  asks request s := Sound t s ∧ t.route s request.package request.path
  answers request s answer s' :=
    s'.options = s.options ∧ s'.context.history = s.context.history ∧
      s'.env.log = .answered request answer :: s.env.log
  valid := Sound t
  since := Since t
  refl _ := .quiet rfl rfl rfl
  trans := Since.trans
  valid_of_since h hv := h.2 hv

def account (c : Collaborators ε) (t : Terms) : Account c.watched where
  toRegime := regime ε t
  found s := Seen s.env.log
  pursued := t.pursued
  found_of_since hs h := h.mono hs.1.log
  pursued_of_since hs h := Terms.pursued_mono hs.1 h
  reported _ _ := .quiet rfl rfl rfl
  cached {s package path} _ _ := by
    refine ⟨.noted rfl rfl rfl (fun _ _ h => nomatch h) (fun _ h => nomatch h), fun value h => ?_⟩
    exact .cached (c.mem_log_cached h)
  asked {s₀ s package path} hv hs hr := ⟨hs.2 hv, hr⟩
  answered {s₀ s s' package path answer} hv hs h := by
    refine ⟨.noted h.1 h.2.1 h.2.2 (fun _ _ h => nomatch h) (fun _ h => nomatch h), ?_⟩
    rintro o rfl
    exact .answered (h.2.2 ▸ List.mem_cons_self ..)
  stored _ _ _ := .quiet rfl rfl rfl
  sought _ _ := .quiet rfl rfl rfl
  injected {s s' result package path text} hv hr hf hi :=
    .injected hr hf hi (fun _ => id) fun _ _ _ _ _ _ _ h => .inl h
  pinned _ _ _ _ _ _ _ _ := Regime.since_repinned _ (.quiet rfl rfl rfl) (.quiet rfl rfl rfl)
  looked _ _ := .noted rfl rfl rfl (fun _ _ h => nomatch h) (fun _ h => nomatch h)
  readied {s package path} hv hr := by
    refine .noted rfl rfl rfl (fun _ _ h => nomatch h) fun p h later => ?_
    obtain rfl := Observation.readied.inj h
    exact ⟨package, path, rfl, Terms.route_mono later hr⟩
  failed _ _ := .noted rfl rfl rfl (fun _ _ h => nomatch h) (fun _ h => nomatch h)

/-- The dependencies that leave so many crossings and steps to their files. -/
def Terms.leaves (t : Terms) (a b : Nat) (r : Resource) (s : Scene (Watched ε)) : Prop :=
  ∃ n k, n + a = t.crossings ∧ k + b = t.fileSteps ∧ t.due s n k r

theorem Terms.leaves_mono {a b : Nat} {r : Resource} (hl : Later s s') (h : t.leaves a b r s) :
    t.leaves a b r s' := by
  obtain ⟨n, k, hn, hk, hd⟩ := h
  exact ⟨n, k, hn, hk, due_mono hl hd⟩

def policy (c : Collaborators ε) (t : Terms) : Policy c.watched t.fileSteps where
  toAccount := account c t
  takes := t.leaves
  opens := t.leaves
  parses a b f s :=
    (∃ r, t.leaves a b r s ∧ Leads (Seen s.env.log) r f) ∧
      ∃ version, .expanded f.package version f.path f.text ⟨a, b⟩ ∈ s.context.history
  takes_of_since hs h := Terms.leaves_mono hs.1 h
  opens_of_since hs h := Terms.leaves_mono hs.1 h
  parses_of_since := fun hs ⟨⟨r, hr, hl⟩, version, hm⟩ =>
    ⟨⟨r, Terms.leaves_mono hs.1 hr, hl.mono fun _ _ _ => Seen.mono hs.1.log⟩,
      version, hs.1.history _ hm⟩
  pursued_of_takes := fun ⟨n, k, _, _, h⟩ => ⟨n, k, h⟩
  pursued_of_opens := fun ⟨n, k, _, _, h⟩ => ⟨n, k, h⟩
  marked key _ := .quiet rfl (Context.history_mark ..) rfl
  root hv h hp := by
    obtain ⟨n, k, hn, hk, h⟩ := h
    exact ⟨n, k, hn, hk, .root (by rw [← hv.options]; exact hp) h⟩
  entered {a b r w s} hv h hn := by
    have later : Later s { s with context := s.context.record (.entered w) } :=
      ⟨rfl, fun _ => List.mem_cons_of_mem _, fun _ => id⟩
    refine ⟨hv.grow later (fun _ _ _ _ _ hm => .inl ?_) (fun _ _ => .inl) fun _ => .inl,
      Terms.leaves_mono later h, hn⟩
    simpa [Context.record] using hm
  left {s s' w} hv hv' hs := by
    have entered : Later s { s with context := s.context.record (.entered w) } :=
      ⟨rfl, fun _ => List.mem_cons_of_mem _, fun _ => id⟩
    have left : Later s' { s' with context := s'.context.record .left } :=
      ⟨rfl, fun _ => List.mem_cons_of_mem _, fun _ => id⟩
    refine ⟨entered.trans (hs.1.trans left), fun _ => ?_⟩
    refine hv'.grow left (fun _ _ _ _ _ hm => .inl ?_) (fun _ _ => .inl) fun _ => .inl
    simpa [Context.record] using hm
  expanded {a b r f s s' version result} hv ho hl _ hi := by
    obtain ⟨n, k, hn, hk, hd⟩ := ho
    have hs : Since t s s' := by
      refine .injected (hl.route ⟨n, k, hd⟩) hl.found_text hi (fun _ => List.mem_cons_of_mem _) ?_
      intro hh later package version' path text budget hm
      rcases List.mem_cons.mp hm with he | hm
      · cases he
        refine .inr ⟨⟨n, k, hn, hk, ?_⟩, hl.found_text.mono later.log, hh⟩
        exact Terms.reached_mono later ⟨r, hd, hl⟩
      · exact .inl hm
    have hm : .expanded f.package version f.path f.text ⟨a, b⟩ ∈ s'.context.history :=
      hi.history_eq ▸ List.mem_cons_self ..
    exact ⟨hs, ⟨r, ⟨n, k, hn, hk, Terms.due_mono hs.1 hd⟩, hl.mono fun _ _ _ => Seen.mono hs.1.log⟩,
      version, hm⟩
  crosses {a b f r s} hp hi hc := by
    obtain ⟨⟨r, ⟨n, k, hn, hk, hd⟩, hl⟩, version, hm⟩ := hp
    exact ⟨n + 1, 0, by omega, by omega, .cross hd hl ⟨version, _, hm, hn, hk⟩ hi hc⟩
  stays {a b f r s} hp hi hs := by
    obtain ⟨⟨r, ⟨n, k, hn, hk, hd⟩, hl⟩, version, hm⟩ := hp
    exact ⟨n, k + 1, hn, by omega, .stay hd hl ⟨version, _, hm, hn, hk⟩ hi hs (by omega)⟩

def terms (s : Scene ε) (source : String) (parent : Parent) : Terms where
  options := s.options
  first := First s.options s.pins source parent
  crossings := s.options.packageRecursionDepth.toNat
  fileSteps := s.options.fileRecursionDepth.toNat

/-- However far a watched pass has come, it is sound, and what it asks for comes on a route. -/
theorem ends_after (c : Collaborators ε) (source directory : String) (s : Scene ε) (play : Play ε)
    (n : Nat) :
    let t := terms s source (.directory directory)
    (watchedPass c s source directory play n).Ends (regime ε t) fun _ s' => Sound t s' := by
  intro t
  have hv : Sound t ({ s.watched with context := {} } : Scene (Watched ε)) :=
    { options := rfl
      expanded := fun _ _ _ _ _ hm => nomatch hm
      placed := fun _ _ hm => nomatch hm
      readied := fun _ hm => nomatch hm }
  have hends : (pass c.watched source (.directory directory) s.options.budget s.watched).Ends
      (regime ε t) fun _ s' => Since t { s.watched with context := {} } s' := by
    refine (policy c t).pass source rfl rfl (fun r m hr _ hm => ?_) hv
    have hm : t.crossings = m + 1 := hm
    exact ⟨1, 0, by omega, Nat.zero_add _, .first hr⟩
  exact (hends.mono fun _ _ h => h.2 hv).after (fun _ _ _ _ => ⟨rfl, rfl, rfl⟩) n

end Reach

/-- Whatever the source, the cache and the host do, each file that a pass expands is the end of a chain
of dependencies from the source text or a preloaded package, by way of files that were expanded with what
the chain leaves of the budget. The chain crosses into packages no more often than the options allow, and
takes no more steps than they allow from one crossing to the next. The text that is expanded and handed
to the host is one that the cache or the source returned for it. -/
theorem pass_expanded_reached (c : Collaborators ε) (source directory : String) (s : Scene ε)
    (play : Play ε) (n : Nat) :
    let now := (watchedPass c s source directory play n).scene
    let t := Reach.terms s source (.directory directory)
    ∀ package version path text budget,
      .expanded package version path text budget ∈ now.context.history →
        (∃ crossings ≤ s.options.packageRecursionDepth.toNat,
          ∃ steps ≤ s.options.fileRecursionDepth.toNat,
            Reached (Seen now.env.log) (First s.options s.pins source (.directory directory))
              s.options.preloadPackages s.options.fileRecursionDepth.toNat (t.parsed now) crossings
              steps ⟨package, path, text⟩) ∧
        Seen now.env.log package path (some (.text text)) ∧
        Handed now.env.log (Package.hostPath package path) text := by
  intro now t package version path text budget hm
  have hsound : Reach.Sound t now :=
    (Reach.ends_after c source directory s play n).scene (fun _ _ h => h.1) fun _ _ h => h
  obtain ⟨⟨crossings, steps, hc, hk, hr⟩, hseen, hhanded⟩ :=
    hsound.expanded package version path text budget hm
  have hc : crossings + budget.crossings = s.options.packageRecursionDepth.toNat := hc
  have hk : steps + budget.steps = s.options.fileRecursionDepth.toNat := hk
  exact ⟨⟨crossings, by omega, steps, by omega, hr⟩, hseen, hhanded⟩

def twoFiles : Request → Option String := Play.files "p" [
  ("package.json", "\x7b\"types\":\"index.d.ts\",\"version\":\"1.0.0\"\x7d"),
  ("index.d.ts", "import more from \"./more\""),
  ("more.d.ts", "declare const more: number")]

/-- The second file is expanded, and comes from the source. -/
theorem twoFiles_expanded_seen :
    .expanded "p" (some "1.0.0") "more.d.ts" "declare const more: number" ⟨2, 9⟩ ∈
        (watchedPass inMemory (atFirst {}) "require(\"p\")" "/" (.answering twoFiles)
          3).scene.context.history ∧
      Seen (watchedPass inMemory (atFirst {}) "require(\"p\")" "/" (.answering twoFiles)
          3).scene.env.log "p" "more.d.ts" (some (.text "declare const more: number")) := by
  have hm : .expanded "p" (some "1.0.0") "more.d.ts" "declare const more: number" ⟨2, 9⟩ ∈
      (watchedPass inMemory (atFirst {}) "require(\"p\")" "/" (.answering twoFiles)
        3).scene.context.history := by decide +kernel
  have h := pass_expanded_reached inMemory "require(\"p\")" "/" (atFirst {}) (.answering twoFiles) 3
    "p" (some "1.0.0") "more.d.ts" "declare const more: number" ⟨2, 9⟩ hm
  exact ⟨hm, h.2.1⟩

end DeclarationFetch.Resolution
