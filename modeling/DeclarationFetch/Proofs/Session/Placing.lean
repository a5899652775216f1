import DeclarationFetch.Proofs.Resolution.Parallel
import DeclarationFetch.Session.Basic

/-! # What a pass puts into its host

From stop to stop, and whatever others do in between, a pass gives files to its own host only, and where
it has given one its context says that there is new content.

* `Gives host s s'`: all files given from `s` to `s'` went to `host`, and `s'` tells if there were any.
* `Callbacks.parallel`: every part of a pass gives in this way, so that the whole course of it does.
-/

namespace DeclarationFetch

open Resolution

/-! ## Scenes -/

/-- What was given went to the host, which the context tells. What the context told it still tells. -/
structure Gives (host : HostRef) (s s' : Scene Workspace) : Prop where
  options : s'.options = s.options
  newImports : s.context.newImports = true → s'.context.newImports = true
  placed : ∃ paths : List String, s'.env.placed = paths.map (host, ·) ++ s.env.placed ∧
    (paths ≠ [] → s'.context.newImports = true)

namespace Gives

variable {host : HostRef} {s s' s'' : Scene Workspace}

theorem of_placed_eq (ho : s'.options = s.options)
    (hc : s'.context.newImports = s.context.newImports) (hp : s'.env.placed = s.env.placed) :
    Gives host s s' where
  options := ho
  newImports h := hc.trans h
  placed := ⟨[], hp, fun h => absurd rfl h⟩

theorem refl (s : Scene Workspace) : Gives host s s := of_placed_eq rfl rfl rfl

theorem trans (h : Gives host s s') (h' : Gives host s' s'') : Gives host s s'' where
  options := h'.options.trans h.options
  newImports hn := h'.newImports (h.newImports hn)
  placed := by
    obtain ⟨paths, hp, hn⟩ := h.placed
    obtain ⟨paths', hp', hn'⟩ := h'.placed
    refine ⟨paths' ++ paths, ?_, fun hne => ?_⟩
    · rw [hp', hp, List.map_append, List.append_assoc]
    · by_cases hnil : paths' = []
      · rw [hnil, List.nil_append] at hne
        exact h'.newImports (hn hne)
      · exact hn' hnil

end Gives

/-! ## Steps and walks -/

/-- From stop to stop, wherever the step is taken up again. -/
def Resolution.Step.Gives {α : Type} (host : HostRef) : Step Workspace α → Scene Workspace → Prop
  | .done _ s', s => DeclarationFetch.Gives host s s'
  | .fetch _ s' resume, s =>
      DeclarationFetch.Gives host s s' ∧ ∀ answer v, (resume answer v).Gives host v

structure Resolution.Walk.Gives {α : Type} (host : HostRef) (w : Walk Workspace α) : Prop where
  step : ∀ s, (w s).Gives host s

variable {host : HostRef} {α β : Type}

theorem Resolution.Step.Gives.after {step : Step Workspace α} {s s' : Scene Workspace}
    (hs : DeclarationFetch.Gives host s s') (h : step.Gives host s') : step.Gives host s := by
  cases step with
  | done result s'' => exact hs.trans h
  | fetch request s'' resume => exact ⟨hs.trans h.1, h.2⟩

theorem Resolution.Step.Gives.andThen {step : Step Workspace α} {s : Scene Workspace}
    {next : Except Fault α → Scene Workspace → Step Workspace β} (h : step.Gives host s)
    (hn : ∀ result s', (next result s').Gives host s') : (step.andThen next).Gives host s := by
  induction step generalizing s with
  | done result s' => exact .after h (hn result s')
  | fetch request s' resume ih => exact ⟨h.1, fun answer v => ih answer v (h.2 answer v)⟩

namespace Resolution.Walk.Gives

variable {w : Walk Workspace α}

theorem ofExcept (result : Except Fault α) : (Walk.ofExcept result).Gives host :=
  ⟨fun s => .refl s⟩

theorem read {f : Scene Workspace → Walk Workspace α} (h : ∀ s, (f s).Gives host) :
    (Walk.scene >>= f).Gives host := ⟨fun s => (h s).step s⟩

theorem request (r : Request) : (Walk.request r).Gives host :=
  ⟨fun s => ⟨.refl s, fun _ v => .refl v⟩⟩

theorem bind {f : α → Walk Workspace β} (h : w.Gives host) (hf : ∀ a, (f a).Gives host) :
    (w >>= f).Gives host := by
  refine ⟨fun s => (h.step s).andThen fun result s' => ?_⟩
  cases result with
  | error fault => exact .refl s'
  | ok a => exact (hf a).step s'

theorem rescue {f : Fault → Walk Workspace α} (h : w.Gives host) (hf : ∀ fault, (f fault).Gives host) :
    (w.rescue f).Gives host := by
  refine ⟨fun s => (h.step s).andThen fun result s' => ?_⟩
  cases result with
  | ok a => exact .refl s'
  | error fault => exact (hf fault).step s'

theorem act {f : Workspace → Except Fault α × Workspace} (h : ∀ w, (f w).2.placed = w.placed) :
    (Walk.act f).Gives host := ⟨fun s => .of_placed_eq rfl rfl (h s.env)⟩

end Resolution.Walk.Gives

/-! ## Collaborators -/

theorem Callbacks.placed_tell (k : Callbacks) (r : Report) (w : Workspace) :
    (k.tell r w).2.placed = w.placed := by
  unfold Callbacks.tell
  split <;> rfl

theorem Workspace.placed_putFile (host : HostRef) (path text : String) (w : Workspace) :
    (w.putFile host path text).2.placed =
      if (w.putFile host path text).1.isOk then (host, path) :: w.placed else w.placed := by
  cases host with
  | memory id => rfl
  | directory h =>
    show (if (h.set w.tree path text).1.isOk then _ else _) =
      if ((h.set w.tree path text).1.mapError Fault.host).isOk then _ else _
    cases (h.set w.tree path text).1 <;> rfl

variable (k : Callbacks) (cache : CacheRef) (host : HostRef)

/-- Nothing but giving it a file is put down as given to a host. -/
theorem Callbacks.placed_perform (a : Action α) (ha : a.places = false) (w : Workspace) :
    ((k.attachTo (Workspace.collaborators cache host)).perform a w).2.placed = w.placed := by
  have honDisk : ∀ {β : Type} (r : Except DiskCache.Fault (β × FileTree)),
      (w.onDisk r).2.placed = w.placed := fun r => by cases r <;> rfl
  cases a with
  | cached key =>
    cases cache with
    | memory id => rfl
    | disk cache => exact honDisk _
  | isCached key =>
    cases cache with
    | memory id => rfl
    | disk cache => exact honDisk _
  | store key text => cases cache <;> rfl
  | hosted path => cases host <;> rfl
  | host path text => cases ha
  | makeRoom path => cases host <;> rfl
  | onUpdate u => exact k.placed_tell _ w
  | onVersions pins => exact k.placed_tell _ w

theorem Callbacks.place_gives (path text : String) :
    (place (k.attachTo (Workspace.collaborators cache host)) path text).Gives host := by
  refine ⟨fun s => ?_⟩
  have hplaced := Workspace.placed_putFile host path text s.env
  generalize hput : s.env.putFile host path text = put at hplaced
  obtain ⟨result, w⟩ := put
  have hact : Walk.act ((k.attachTo (Workspace.collaborators cache host)).host path text) s =
      .done result { s with env := w } := by
    show Step.done (s.env.putFile host path text).1 { s with env := (s.env.putFile host path text).2 } = _
    rw [hput]
  unfold place
  simp only [bind, Walk.bind, hact, Step.andThen]
  cases result with
  | error fault => exact .of_placed_eq rfl rfl hplaced
  | ok =>
    exact { options := rfl, newImports := fun _ => rfl, placed := ⟨[path], hplaced, fun _ => rfl⟩ }

theorem Callbacks.report_gives (u : Update) :
    (report (k.attachTo (Workspace.collaborators cache host)) u).Gives host := by
  refine .read fun s => ?_
  split
  · exact .act (k.placed_perform cache host (.onUpdate u) rfl)
  · exact .ofExcept (.ok ())

theorem Callbacks.retrieve_gives (package path : String) :
    (retrieve (k.attachTo (Workspace.collaborators cache host)) package path).Gives host := by
  refine .read fun s => ?_
  let key := Package.fileKey package (s.pins.version? package) path
  refine .bind (.act (k.placed_perform cache host (.cached key) rfl)) fun o => ?_
  cases o with
  | some value => exact .bind (k.report_gives cache host _) fun _ => .ofExcept (.ok (some value))
  | none =>
    refine .bind (.request _) fun o => ?_
    cases o with
    | none => exact .ofExcept (.ok none)
    | some text =>
      refine .bind (.act (k.placed_perform cache host (.store key text) rfl)) fun _ => ?_
      exact .bind (k.report_gives cache host _) fun _ => .ofExcept (.ok (some (Value.text text)))

theorem Callbacks.handle_gives (fault : Fault) :
    (handle (k.attachTo (Workspace.collaborators cache host)) fault).Gives host := by
  refine ⟨fun s => ?_⟩
  obtain h | ⟨message, h⟩ :=
    handle_cases (k.attachTo (Workspace.collaborators cache host)) fault s
  · rw [h]
    exact .refl s
  · rw [h]
    exact .of_placed_eq rfl rfl (k.placed_tell _ s.env)

theorem Callbacks.parallel : Parallel (k.attachTo (Workspace.collaborators cache host))
    (k.attachTo (Workspace.collaborators cache host)) fun _ w _ => w.Gives host where
  ofExcept := .ofExcept
  read h := .read fun s => h s s (.refl s)
  change _ hf := ⟨fun s => .of_placed_eq rfl (hf s.context) rfl⟩
  setPins _ := ⟨fun _ => .of_placed_eq rfl rfl rfl⟩
  act a ha := .act (k.placed_perform cache host a ha)
  place := k.place_gives cache host
  retrieve := k.retrieve_gives cache host
  bind h hf := h.bind hf
  closing _ hf h := ⟨fun s => (h.step s).andThen fun _ s' => .of_placed_eq rfl (hf s'.context) rfl⟩

/-- From its own context on, a pass gives files to its host only, and tells. -/
theorem Callbacks.pass_gives (source : String) (parent : Parent) (budget : Budget)
    (s : Scene Workspace) :
    (pass (k.attachTo (Workspace.collaborators cache host)) source parent budget s).Gives host
      { s with context := {} } := by
  rw [pass_eq]
  exact ((k.parallel cache host).course (fun h => h.rescue (k.handle_gives cache host)) source parent
    budget).step _

end DeclarationFetch
