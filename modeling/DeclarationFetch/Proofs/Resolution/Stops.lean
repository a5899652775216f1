import DeclarationFetch.Proofs.Resolution.Mirror
import DeclarationFetch.Proofs.Resolution.Policy

/-! # From one stop of a pass to a later one

A policy tells how a scene compares with the start of its pass. The scenes in which a pass waits for an
answer compare with each other in the same way.

* `Step.Steady part`: up to the next stop a part of the environment stays as it is, and a request is made
  with the pin of the moment.
* `pass_request_version`: every request of a pass is made with the pin of the moment.
* `Tracked ε`: an environment with the scenes that the walk has waited in.
* `Policy.tracked`: a policy that compares all of them with the present.
* `Policy.since_of_le`: what a policy says of the start and a later stop of a pass, it says of any stop and
  a later one.
-/

namespace DeclarationFetch.Resolution

variable {ε α β κ : Type} {c : Collaborators ε}

/-! ## Between two stops -/

/-- A part of the environment that the collaborators leave alone. -/
structure Collaborators.Spares (c : Collaborators ε) (part : ε → κ) : Prop where
  perform : ∀ {α} (a : Action α) e, part (c.perform a e).2 = part e
  onError : ∀ message e, part (c.onError message e).2 = part e

namespace Step

/-- Where the step stops the part is what it was, and a request is made with the pin that its package has
there. The next stop goes on with what the others have made of the part. -/
def Steady (part : ε → κ) : Step ε α → κ → Prop
  | done _ s, k => part s.env = k
  | fetch request s resume, k =>
      part s.env = k ∧ request.version = s.pins.pin request.package ∧
        ∀ answer s', (resume answer s').Steady part (part s'.env)

namespace Steady

variable {part : ε → κ} {step : Step ε α} {k : κ}

theorem part_eq (h : step.Steady part k) : part step.scene.env = k := by
  cases step with
  | done result s => exact h
  | fetch request s resume => exact h.1

theorem version_eq (h : step.Steady part k) {request : Request} (hr : step.request? = some request) :
    request.version = step.scene.pins.pin request.package := by
  cases step with
  | done result s => cases hr
  | fetch request s resume =>
    cases hr
    exact h.2.1

theorem andThen {next : Except Fault α → Scene ε → Step ε β} (h : step.Steady part k)
    (hn : ∀ result s, (next result s).Steady part (part s.env)) :
    (step.andThen next).Steady part k := by
  induction step generalizing k with
  | done result s => exact (show part s.env = k from h) ▸ hn result s
  | fetch request s resume ih => exact ⟨h.1, h.2.1, fun answer s' => ih answer s' (h.2.2 answer s')⟩

theorem after (h : step.Steady part k) (play : Play ε) (n : Nat) :
    ∃ k', (step.after play n).Steady part k' := by
  induction n generalizing play step k with
  | zero => exact ⟨k, h⟩
  | succ n ih =>
    cases step with
    | done result s => exact ⟨k, h⟩
    | fetch request s resume => exact ih (h.2.2 _ _) play.tail

end Steady
end Step

structure Walk.Steady (part : ε → κ) (w : Walk ε α) : Prop where
  step : ∀ s, (w s).Steady part (part s.env)

namespace Walk.Steady

variable {part : ε → κ} {w : Walk ε α}

theorem ofExcept (result : Except Fault α) : (Walk.ofExcept result).Steady part := ⟨fun _ => rfl⟩

theorem change (f : Context → Context) : (Walk.change f).Steady part := ⟨fun _ => rfl⟩

theorem read {f : Scene ε → Walk ε α} (h : ∀ s, (f s).Steady part) :
    (Walk.scene >>= f).Steady part := ⟨fun s => (h s).step s⟩

theorem bind (h : w.Steady part) {f : α → Walk ε β} (hf : ∀ a, (f a).Steady part) :
    (w >>= f).Steady part := by
  refine ⟨fun s => (h.step s).andThen fun result s' => ?_⟩
  cases result with
  | ok a => exact (hf a).step s'
  | error fault => rfl

theorem rescue (h : w.Steady part) {f : Fault → Walk ε α} (hf : ∀ fault, (f fault).Steady part) :
    (w.rescue f).Steady part := by
  refine ⟨fun s => (h.step s).andThen fun result s' => ?_⟩
  cases result with
  | ok a => rfl
  | error fault => exact (hf fault).step s'

variable (hc : c.Spares part)
include hc

theorem act (a : Action α) : (Walk.act (c.perform a)).Steady part := ⟨fun s => hc.perform a s.env⟩

theorem report (u : Update) : (report c u).Steady part := by
  refine read fun s => ?_
  split
  · exact act hc (.onUpdate u)
  · exact ofExcept _

/-- The pin is read before the cache is asked, which leaves it alone. -/
theorem retrieve (package path : String) : (retrieve c package path).Steady part := by
  refine ⟨fun s => ?_⟩
  let key := Package.fileKey package (s.pins.version? package) path
  have hcached : part (c.cached key s.env).2 = part s.env := hc.perform (.cached key) s.env
  simp only [Resolution.retrieve, Bind.bind, Walk.bind, Walk.scene, Walk.act, Step.andThen]
  cases (c.cached key s.env).1 with
  | error fault => exact hcached
  | ok o =>
    cases o with
    | some value =>
      have hreport := (report hc (.loadedFromCache key)).bind fun _ => ofExcept (.ok (some value))
      exact hcached ▸ hreport.step { s with env := (c.cached key s.env).2 }
    | none =>
      refine ⟨hcached, rfl, fun answer s' => ?_⟩
      obtain fault | _ | text := answer
      · rfl
      · rfl
      · exact ((act hc (.store key text)).bind fun _ =>
          (report hc _).bind fun _ => ofExcept (.ok (some (Value.text text)))).step s'

theorem handle (fault : Fault) : (handle c fault).Steady part := by
  refine ⟨fun s => ?_⟩
  obtain h | ⟨message, h⟩ := handle_cases c fault s
  · rw [h]
    rfl
  · rw [h]
    exact hc.onError message s.env

end Walk.Steady

theorem Collaborators.Spares.parallel {part : ε → κ} (hc : c.Spares part) :
    Parallel c c fun _ w _ => w.Steady part where
  ofExcept := .ofExcept
  read h := .read fun s => h s s (.refl s)
  change f _ := .change f
  setPins _ := ⟨fun _ => rfl⟩
  act a _ := .act hc a
  place path text := (Walk.Steady.act hc (.host path text)).bind fun _ => .change _
  retrieve := .retrieve hc
  bind h hf := h.bind hf
  closing _ _ h := ⟨fun s => (h.step s).andThen fun _ _ => rfl⟩

theorem pass_steady {part : ε → κ} (hc : c.Spares part) (source : String) (parent : Parent)
    (budget : Budget) : (pass c source parent budget).Steady part := by
  refine ⟨fun s => ?_⟩
  rw [pass_eq]
  exact (hc.parallel.course (fun h => h.rescue (.handle hc)) source parent budget).step _

/-- Every request of a pass is made with the pin that its package has at the moment. -/
theorem pass_request_version (c : Collaborators ε) (source : String) (parent : Parent) (budget : Budget)
    (s : Scene ε) (play : Play ε) (n : Nat) {request : Request}
    (hr : ((pass c source parent budget s).after play n).request? = some request) :
    request.version =
      ((pass c source parent budget s).after play n).scene.pins.pin request.package := by
  have hspares : c.Spares fun _ => () := ⟨fun _ _ => rfl, fun _ _ => rfl⟩
  obtain ⟨_, h⟩ := ((pass_steady hspares source parent budget).step s).after play n
  exact h.version_eq hr

/-! ## Stops put down -/

/-- An environment with the scenes in which the walk has waited for an answer, the latest first. -/
structure Tracked (ε : Type) where
  env : ε
  stops : List (Scene ε)

def Tracked.pass (e : Tracked ε) (r : Except Fault α × ε) : Except Fault α × Tracked ε :=
  (r.1, ⟨r.2, e.stops⟩)

/-- The same collaborators, which have nothing to do with the stops. -/
def Collaborators.tracked (c : Collaborators ε) : Collaborators (Tracked ε) where
  cached key e := e.pass (c.cached key e.env)
  isCached key e := e.pass (c.isCached key e.env)
  store key text e := e.pass (c.store key text e.env)
  hosted path e := e.pass (c.hosted path e.env)
  host path text e := e.pass (c.host path text e.env)
  makeRoom path e := e.pass (c.makeRoom path e.env)
  onUpdate u e := e.pass (c.onUpdate u e.env)
  onVersions pins e := e.pass (c.onVersions pins e.env)
  onError message e := e.pass (c.onError message e.env)

namespace Scene

/-- The scene with its own beginning as the first stop. -/
def tracked (s : Scene ε) : Scene (Tracked ε) := s.withEnv ⟨s.env, [{ s with context := {} }]⟩

def untracked (s : Scene (Tracked ε)) : Scene ε := s.withEnv s.env.env

end Scene

def Play.tracked (play : Play ε) : Play (Tracked ε) where
  answer n request s := play.answer n request s.untracked
  pins n request s := play.pins n request s.untracked
  env n request s := ⟨play.env n request s.untracked, s.untracked :: s.env.stops⟩

def Collaborators.untracking (c : Collaborators ε) : View c.tracked c where
  env := Tracked.env
  options := id
  onlySpecified _ := rfl
  preload _ := rfl
  updates _ := rfl
  versions _ := rfl
  perform a _ := by cases a <;> rfl

theorem Collaborators.untracking_handles (c : Collaborators ε) : c.untracking.Handles :=
  ⟨fun _ => rfl, fun _ _ => rfl⟩

theorem Collaborators.tracked_spares (c : Collaborators ε) : c.tracked.Spares Tracked.stops :=
  ⟨fun a _ => by cases a <;> rfl, fun _ _ => rfl⟩

/-- A pass whose stops are put down is at each stop where the pass is. -/
theorem scene_after_tracked (c : Collaborators ε) (source : String) (parent : Parent) (budget : Budget)
    (s : Scene ε) (play : Play ε) (n : Nat) :
    ((pass c.tracked source parent budget s.tracked).after play.tracked n).scene.untracked =
      ((pass c source parent budget s).after play n).scene := by
  have hplay : play.tracked.Mirrors c.untracking.scene play := ⟨fun _ _ _ => rfl, fun _ _ _ => rfl⟩
  have hpass := c.untracking_handles.pass source parent budget
  exact ((hpass.step s.tracked).after hplay n).scene_eq.symm

/-! What was put down stays. -/

theorem mem_stops_after {step : Step (Tracked ε) α} {stops : List (Scene ε)}
    (h : step.Steady Tracked.stops stops) (play : Play ε) (n : Nat) :
    ∀ t ∈ stops, t ∈ (step.after play.tracked n).scene.env.stops := by
  induction n generalizing play step stops with
  | zero => exact fun t ht => h.part_eq ▸ ht
  | succ n ih =>
    cases step with
    | done result s => exact fun t ht => h.part_eq ▸ ht
    | fetch request s resume =>
      intro t ht
      have hkept : t ∈ s.untracked :: s.env.stops := List.mem_cons_of_mem _ (h.1 ▸ ht)
      exact ih (h.2.2 _ _) play.tail t hkept

/-- A stop is put down at every later one, unless it is the end. -/
theorem stop_mem_after {step : Step (Tracked ε) α} {stops : List (Scene ε)}
    (h : step.Steady Tracked.stops stops) (play : Play ε) {n m : Nat} (hnm : n ≤ m) :
    (step.after play.tracked m).scene = (step.after play.tracked n).scene ∨
      (step.after play.tracked n).scene.untracked ∈ (step.after play.tracked m).scene.env.stops := by
  induction n generalizing play step stops m with
  | zero =>
    cases m with
    | zero => exact .inl rfl
    | succ m =>
      cases step with
      | done result s => exact .inl rfl
      | fetch request s resume =>
        -- the scene was put down with the request that is made in it
        exact .inr (mem_stops_after (h.2.2 _ _) play.tail m _ (List.mem_cons_self ..))
  | succ n ih =>
    obtain ⟨m, rfl⟩ : ∃ k, m = k + 1 := ⟨m - 1, by omega⟩
    cases step with
    | done result s => exact .inl rfl
    | fetch request s resume => exact ih (h.2.2 _ _) play.tail (Nat.le_of_succ_le_succ hnm)

/-! ## Policies over all stops -/

/-- The terms of a regime, with every stop before the present. -/
def Regime.tracked (R : Regime ε) : Regime (Tracked ε) where
  asks request s := R.asks request s.untracked ∧ ∀ t ∈ s.env.stops, R.since t s.untracked
  answers request s answer s' := R.answers request s.untracked answer s'.untracked ∧
    s'.env.stops = s.untracked :: s.env.stops
  valid s := R.valid s.untracked ∧ ∀ t ∈ s.env.stops, R.since t s.untracked
  since s s' := R.since s.untracked s'.untracked ∧
    ∀ t ∈ s'.env.stops, t ∈ s.env.stops ∨ R.since t s'.untracked
  refl _ := ⟨R.refl _, fun _ => .inl⟩
  trans h h' := ⟨R.trans h.1 h'.1, fun t ht =>
    (h'.2 t ht).elim (fun ht => (h.2 t ht).imp_right fun hs => R.trans hs h'.1) .inr⟩
  valid_of_since h hv := ⟨R.valid_of_since h.1 hv.1, fun t ht =>
    (h.2 t ht).elim (fun ht => R.trans (hv.2 t ht) h.1) id⟩

theorem Regime.tracked_since {R : Regime ε} {s s' : Scene (Tracked ε)}
    (h : R.since s.untracked s'.untracked) (hs : s'.env.stops = s.env.stops) : R.tracked.since s s' :=
  ⟨h, fun _ ht => .inl (hs ▸ ht)⟩

theorem Play.Follows.tracked {R : Regime ε} {play : Play ε} (h : play.Follows R) :
    play.tracked.Follows R.tracked := fun n request s ha => ⟨h n request s.untracked ha.1, rfl⟩

theorem Injected.untracked {path text : String} {s s' : Scene (Tracked ε)} {result : Except Fault Unit}
    (h : Injected c.tracked path text s result s') :
    Injected c path text s.untracked result s'.untracked ∧ s'.env.stops = s.env.stops := by
  cases h with
  | unreadable h => exact ⟨.unreadable h, rfl⟩
  | present h => exact ⟨.present h, rfl⟩
  | refused h hf hn => exact ⟨.refused h hf hn, rfl⟩
  | placed h hf hn => exact ⟨.placed h hf hn, rfl⟩

theorem Scene.untracked_repinned (s : Scene (Tracked ε)) (pins : Pins) :
    (s.repinned c.tracked pins).untracked = s.untracked.repinned c pins := by
  unfold Scene.repinned Scene.untracked Scene.withEnv
  dsimp only
  split <;> rfl

theorem Scene.stops_repinned (s : Scene (Tracked ε)) (pins : Pins) :
    (s.repinned c.tracked pins).env.stops = s.env.stops := by
  unfold Scene.repinned
  split <;> rfl

def Account.tracked (A : Account c) : Account c.tracked where
  toRegime := A.toRegime.tracked
  found s := A.found s.untracked
  pursued s := A.pursued s.untracked
  found_of_since hs := A.found_of_since hs.1
  pursued_of_since hs := A.pursued_of_since hs.1
  reported u hv := Regime.tracked_since (A.reported u hv.1) rfl
  cached hv hr := ⟨Regime.tracked_since (A.cached hv.1 hr).1 rfl, (A.cached hv.1 hr).2⟩
  asked hv hs hr := ⟨A.asked hv.1 hs.1 hr, (A.toRegime.tracked.valid_of_since hs hv).2⟩
  answered hv hs ha := by
    obtain ⟨hsince, hfound⟩ := A.answered hv.1 hs.1 ha.1
    refine ⟨⟨hsince, fun t ht => ?_⟩, hfound⟩
    rcases List.mem_cons.mp (ha.2 ▸ ht) with rfl | ht
    · exact .inr hsince
    · exact .inl ht
  stored hv hs hf := by
    have h := A.stored hv.1 hs.1 hf
    exact Regime.tracked_since h rfl
  sought key hv := Regime.tracked_since (A.sought key hv.1) rfl
  injected hv hr hf hi :=
    Regime.tracked_since (A.injected hv.1 hr hf hi.untracked.1) hi.untracked.2
  pinned hv hr hd hf hm he hver ha := by
    have hsince := A.pinned hv.1 hr hd hf hm he hver ha
    exact Regime.tracked_since (Scene.untracked_repinned .. ▸ hsince) (Scene.stops_repinned ..)
  looked hv hr := Regime.tracked_since (A.looked hv.1 hr) rfl
  readied hv hr := Regime.tracked_since (A.readied hv.1 hr) rfl
  failed message hv := Regime.tracked_since (A.failed message hv.1) rfl

namespace Policy

variable {fileSteps : Nat} (A : Policy c fileSteps)

/-- What the policy compares does not mind the marks where an expansion begins and ends. -/
def Unmarked : Prop :=
  ∀ s m, A.since s { s with context := s.context.record m }

def tracked (hu : A.Unmarked) : Policy c.tracked fileSteps where
  toAccount := A.toAccount.tracked
  takes a b r s := A.takes a b r s.untracked
  opens a b r s := A.opens a b r s.untracked
  parses a b f s := A.parses a b f s.untracked
  takes_of_since hs := A.takes_of_since hs.1
  opens_of_since hs := A.opens_of_since hs.1
  parses_of_since hs := A.parses_of_since hs.1
  pursued_of_takes := A.pursued_of_takes
  pursued_of_opens := A.pursued_of_opens
  marked key hv := Regime.tracked_since (A.marked key hv.1) rfl
  root hv := A.root hv.1
  entered hv ht hn := by
    obtain ⟨hv', ho, hn'⟩ := A.entered hv.1 ht hn
    exact ⟨⟨hv', fun t hm => A.trans (hv.2 t hm) (hu _ _)⟩, ho, hn'⟩
  left hv hv' hs := by
    refine ⟨A.left hv.1 hv'.1 hs.1, fun t ht => ?_⟩
    exact (hs.2 t ht).imp_right fun h => A.trans h (hu _ _)
  expanded hv ho hl hnew hi := by
    obtain ⟨hi, hstops⟩ := hi.untracked
    obtain ⟨hsince, hparses⟩ := A.expanded hv.1 ho hl hnew hi
    exact ⟨Regime.tracked_since hsince hstops, hparses⟩
  crosses := A.crosses
  stays := A.stays

/-- What a policy says of the start of a pass and a later stop it says of any stop and a later one. -/
theorem since_of_le (hu : A.Unmarked) (source : String) {parent : Parent} {budget : Budget} {s : Scene ε}
    (hfiles : budget.initialFileDepth.toNat = fileSteps)
    (hcross : ∀ r n, First s.options s.pins source parent r → Crosses (homeOf parent) r →
      budget.packageDepth.toNat = n + 1 → A.takes n fileSteps r { s with context := {} })
    (hstay : ∀ r n, First s.options s.pins source parent r → Stays (homeOf parent) r →
      budget.fileDepth.toNat = n + 1 →
        A.takes budget.packageDepth.toNat n r { s with context := {} })
    (hv : A.valid { s with context := {} }) {play : Play ε} (hp : play.Follows A.toRegime) {n m : Nat}
    (hnm : n ≤ m) :
    let step k := (Resolution.pass c source parent budget s).after play k
    A.since { s with context := {} } (step m).scene ∧ A.since (step n).scene (step m).scene := by
  intro step
  let trackedStep k := (Resolution.pass c.tracked source parent budget s.tracked).after play.tracked k
  have hscene : ∀ k, (trackedStep k).scene.untracked = (step k).scene :=
    scene_after_tracked c source parent budget s play
  have hvalid : A.toRegime.tracked.valid { s.tracked with context := {} } :=
    ⟨hv, fun t ht => List.mem_singleton.mp ht ▸ A.refl _⟩
  have hends := ((A.tracked hu).pass_from source hfiles hcross hstay hvalid).after hp.tracked m
  have hstops : ∀ t ∈ (trackedStep m).scene.env.stops, A.since t (step m).scene :=
    hscene m ▸ hends.scene (fun _ _ h => h.2) fun _ _ h =>
      (A.toRegime.tracked.valid_of_since h hvalid).2
  have hsteady := (pass_steady c.tracked_spares source parent budget).step s.tracked
  refine ⟨hstops _ (mem_stops_after hsteady play m _ (List.mem_singleton_self _)), ?_⟩
  rcases stop_mem_after hsteady play hnm with heq | hmem
  · have hsame : (step m).scene = (step n).scene :=
      (hscene m).symm.trans ((congrArg Scene.untracked heq).trans (hscene n))
    exact hsame ▸ A.refl _
  · exact hstops _ (hscene n ▸ hmem)

end Policy

end DeclarationFetch.Resolution
