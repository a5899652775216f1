import DeclarationFetch.Proofs.Resolution.Parallel
import DeclarationFetch.Proofs.Resolution.Watch

/-! # Passes seen through another environment

Collaborators that do the same on another environment lead a pass to the same. Under watch a pass does
what it does without, so that its log tells of that pass.

* `View c c'`: another look at the environment, in which the collaborators do the same.
* `Step.Mirrors`: a step stands where another stands under a view, and so on from every answer.
* `View.parallel`: each part of a pass mirrors the same part under a view.
* `View.Handles.pass`: so does a whole pass, if failures are handled alike.
* `pass_after_watched`: a pass has come after so many fetches to where it comes to under watch.
-/

namespace DeclarationFetch.Resolution

variable {ε ε' α β : Type} {c : Collaborators ε} {c' : Collaborators ε'}

/-! ## Views -/

/-- Another look at what collaborators work on, in which they do the same. -/
structure View (c : Collaborators ε) (c' : Collaborators ε') where
  env : ε → ε'
  options : Options → Options
  onlySpecified : ∀ o, (options o).onlySpecifiedPackages = o.onlySpecifiedPackages
  preload : ∀ o, (options o).preloadPackages = o.preloadPackages
  updates : ∀ o, (options o).handlers.updates = o.handlers.updates
  versions : ∀ o, (options o).handlers.versions = o.handlers.versions
  perform : ∀ {α} (a : Action α) (e : ε),
    c'.perform a (env e) = ((c.perform a e).1, env (c.perform a e).2)

namespace View

def ofEnv (env : ε → ε') (perform : ∀ {α} (a : Action α) (e : ε),
    c'.perform a (env e) = ((c.perform a e).1, env (c.perform a e).2)) : View c c' where
  env := env
  options o := o
  onlySpecified _ := rfl
  preload _ := rfl
  updates _ := rfl
  versions _ := rfl
  perform := perform

variable (V : View c c')

def scene (s : Scene ε) : Scene ε' := ⟨V.options s.options, s.pins, s.context, V.env s.env⟩

theorem resembles (s : Scene ε) : s.Resembles (V.scene s) :=
  ⟨rfl, rfl, V.onlySpecified _, V.preload _, V.updates _, V.versions _⟩

end View

/-! ## Steps -/

namespace Step

/-- The other step stands where this one does under a view of its scenes, and goes on as it does. -/
def Mirrors (view : Scene ε → Scene ε') : Step ε α → Step ε' α → Prop
  | done result scene, step' => step' = done result (view scene)
  | fetch request scene resume, step' =>
      ∃ resume', step' = fetch request (view scene) resume' ∧
        ∀ answer s, (resume answer s).Mirrors view (resume' answer (view s))

namespace Mirrors

variable {view : Scene ε → Scene ε'} {step : Step ε α} {step' : Step ε' α}

theorem andThen {next : Except Fault α → Scene ε → Step ε β}
    {next' : Except Fault α → Scene ε' → Step ε' β} (h : step.Mirrors view step')
    (hn : ∀ result s, (next result s).Mirrors view (next' result (view s))) :
    (step.andThen next).Mirrors view (step'.andThen next') := by
  induction step generalizing step' with
  | done result scene =>
    rw [show step' = _ from h]
    exact hn result scene
  | fetch request scene resume ih =>
    obtain ⟨resume', rfl, hr⟩ := h
    exact ⟨_, rfl, fun answer s => ih answer s (hr answer s)⟩

theorem scene_eq (h : step.Mirrors view step') : step'.scene = view step.scene := by
  cases step with
  | done result scene =>
    rw [show step' = _ from h]
    rfl
  | fetch request scene resume =>
    obtain ⟨resume', rfl, _⟩ := h
    rfl

theorem request?_eq (h : step.Mirrors view step') : step'.request? = step.request? := by
  cases step with
  | done result scene =>
    rw [show step' = _ from h]
    rfl
  | fetch request scene resume =>
    obtain ⟨resume', rfl, _⟩ := h
    rfl

theorem run_eq {σ : Type} (h : step.Mirrors view step') (source : Request → σ → Answer × σ)
    (memory : σ) :
    step'.run source memory =
      ((step.run source memory).1, view (step.run source memory).2.1, (step.run source memory).2.2) := by
  induction step generalizing step' memory with
  | done result scene =>
    rw [show step' = _ from h]
    rfl
  | fetch request scene resume ih =>
    obtain ⟨resume', rfl, hr⟩ := h
    exact ih _ scene (hr _ scene) _

end Mirrors
end Step

/-! ## Walks -/

/-- From every scene the walk does what the other does under the view. -/
structure Walk.Mirrors (view : Scene ε → Scene ε') (w : Walk ε α) (w' : Walk ε' α) : Prop where
  step : ∀ s, (w s).Mirrors view (w' (view s))

namespace Walk.Mirrors

section Composition

variable {view : Scene ε → Scene ε'} {w : Walk ε α} {w' : Walk ε' α}

theorem ofExcept {result : Except Fault α} :
    (Walk.ofExcept result).Mirrors view (Walk.ofExcept result) := ⟨fun _ => rfl⟩

theorem request {r : Request} : (Walk.request r).Mirrors view (Walk.request r) :=
  ⟨fun _ => ⟨_, rfl, fun _ _ => rfl⟩⟩

theorem bind (h : w.Mirrors view w') {f : α → Walk ε β} {f' : α → Walk ε' β}
    (hf : ∀ a, (f a).Mirrors view (f' a)) : (w >>= f).Mirrors view (w' >>= f') := by
  refine ⟨fun s => (h.step s).andThen fun result s' => ?_⟩
  cases result with
  | ok a => exact (hf a).step s'
  | error fault => rfl

theorem rescue (h : w.Mirrors view w') {f : Fault → Walk ε α} {f' : Fault → Walk ε' α}
    (hf : ∀ fault, (f fault).Mirrors view (f' fault)) : (w.rescue f).Mirrors view (w'.rescue f') := by
  refine ⟨fun s => (h.step s).andThen fun result s' => ?_⟩
  cases result with
  | ok a => rfl
  | error fault => exact (hf fault).step s'

end Composition

variable (V : View c c')

theorem read {f : Scene ε → Walk ε α} {f' : Scene ε' → Walk ε' α}
    (h : ∀ s, (f s).Mirrors V.scene (f' (V.scene s))) :
    (Walk.scene >>= f).Mirrors V.scene (Walk.scene >>= f') := ⟨fun s => (h s).step s⟩

theorem act {f : ε → Except Fault α × ε} {f' : ε' → Except Fault α × ε'}
    (h : ∀ e, f' (V.env e) = ((f e).1, V.env (f e).2)) :
    (Walk.act f).Mirrors V.scene (Walk.act f') := by
  refine ⟨fun s => ?_⟩
  show Step.done (f' (V.env s.env)).1 { V.scene s with env := (f' (V.env s.env)).2 } = _
  rw [h]
  rfl

theorem report (u : Update) : (report c u).Mirrors V.scene (report c' u) := by
  refine read V fun s => ?_
  rw [(V.resembles s).updates]
  split
  · exact act V (V.perform (.onUpdate u))
  · exact ofExcept

theorem retrieve (package path : String) :
    (retrieve c package path).Mirrors V.scene (retrieve c' package path) := by
  refine read V fun s => ?_
  let key := Package.fileKey package (s.pins.version? package) path
  refine .bind (act V (V.perform (.cached key))) fun o => ?_
  cases o with
  | some value => exact .bind (report V _) fun _ => ofExcept
  | none =>
    refine .bind .request fun o => ?_
    cases o with
    | none => exact ofExcept
    | some text =>
      exact .bind (act V (V.perform (.store key text))) fun _ => .bind (report V _) fun _ => ofExcept

end Walk.Mirrors

/-- Under a view each part of a pass does the same. -/
theorem View.parallel (V : View c c') : Parallel c c' fun _ => Walk.Mirrors V.scene where
  ofExcept _ := .ofExcept
  read h := .read V fun s => h s _ (V.resembles s)
  change _ _ := ⟨fun _ => rfl⟩
  setPins _ := ⟨fun _ => rfl⟩
  act a _ := .act V (V.perform a)
  place path text := (Walk.Mirrors.act V (V.perform (.host path text))).bind fun _ => ⟨fun _ => rfl⟩
  retrieve := Walk.Mirrors.retrieve V
  bind h hf := h.bind hf
  closing _ _ h := ⟨fun s => (h.step s).andThen fun _ _ => rfl⟩

/-! ## Passes -/

structure View.Handles (V : View c c') : Prop where
  errors : ∀ o, (V.options o).handlers.errors = o.handlers.errors
  failed : ∀ message e,
    c'.onError message (V.env e) = ((c.onError message e).1, V.env (c.onError message e).2)

namespace View.Handles

variable {V : View c c'} (h : V.Handles)
include h

theorem handle (fault : Fault) : (handle c fault).Mirrors V.scene (handle c' fault) := by
  refine ⟨fun s => ?_⟩
  cases hm : fault.handled? with
  | none =>
    rw [handle_of_unhandled (.inl hm), handle_of_unhandled (.inl hm)]
    rfl
  | some message =>
    have hsame : (V.scene s).options.handlers.errors = s.options.handlers.errors := h.errors s.options
    cases he : s.options.handlers.errors with
    | false =>
      rw [handle_of_unhandled (.inr he), handle_of_unhandled (.inr (hsame.trans he))]
      rfl
    | true =>
      rw [handle_of_handled hm he, handle_of_handled hm (hsame.trans he)]
      exact (Walk.Mirrors.act V (h.failed message)).step s

theorem pass (source : String) (parent : Parent) (budget : Budget) :
    (pass c source parent budget).Mirrors V.scene (pass c' source parent budget) := by
  have hcourse := V.parallel.course (fun hw => hw.rescue h.handle) source parent budget
  refine ⟨fun s => ?_⟩
  rw [pass_eq, pass_eq]
  exact hcourse.step { s with context := {} }

end View.Handles

/-- Under the view the others move as those of another play do. -/
structure Play.Mirrors (view : Scene ε → Scene ε') (play : Play ε) (play' : Play ε') : Prop where
  answer : ∀ n request s, play'.answer n request (view s) = play.answer n request s
  scene : ∀ n request s, play'.scene n request (view s) = view (play.scene n request s)

theorem Step.Mirrors.after {view : Scene ε → Scene ε'} {step : Step ε α} {step' : Step ε' α}
    {play : Play ε} {play' : Play ε'} (h : step.Mirrors view step') (hp : play.Mirrors view play')
    (n : Nat) : (step.after play n).Mirrors view (step'.after play' n) := by
  induction n generalizing play play' step step' with
  | zero => exact h
  | succ n ih =>
    cases step with
    | done result scene =>
      rw [show step' = _ from h]
      rfl
    | fetch request scene resume =>
      obtain ⟨resume', rfl, hr⟩ := h
      have htail : play.tail.Mirrors view play'.tail :=
        ⟨fun n => hp.answer (n + 1), fun n => hp.scene (n + 1)⟩
      show Step.Mirrors view _ ((resume' (play'.answer 0 request (view scene)) _).after play'.tail n)
      rw [hp.answer, hp.scene]
      exact ih (hr _ (play.scene 0 request scene)) htail

/-! ## Watches -/

def Collaborators.unwatching (c : Collaborators ε) : View c.watched c where
  env e := e.env
  options o := o
  onlySpecified _ := rfl
  preload _ := rfl
  updates _ := rfl
  versions _ := rfl
  perform a _ := by cases a <;> rfl

theorem Collaborators.unwatching_handles (c : Collaborators ε) : c.unwatching.Handles :=
  ⟨fun _ => rfl, fun _ _ => rfl⟩

/-- After so many fetches a pass stands in the same scene as under watch, and waits for the same. -/
theorem pass_after_watched (c : Collaborators ε) (s : Scene ε) (source directory : String)
    (play : Play ε) (n : Nat) :
    let step := (pass c source (.directory directory) s.options.budget s).after play n
    let watched := watchedPass c s source directory play n
    step.scene = watched.scene.unwatched ∧ step.request? = watched.request? := by
  have hpass := c.unwatching_handles.pass source (.directory directory) s.options.budget
  have hplay : play.watched.Mirrors c.unwatching.scene play := ⟨fun _ _ _ => rfl, fun _ _ _ => rfl⟩
  have hafter := (hpass.step s.watched).after hplay n
  exact ⟨hafter.scene_eq, hafter.request?_eq⟩

end DeclarationFetch.Resolution
