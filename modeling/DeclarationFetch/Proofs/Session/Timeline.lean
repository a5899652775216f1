import DeclarationFetch.Proofs.Session.Courses
import DeclarationFetch.Proofs.Session.History
import Mathlib.Logic.Relation

/-! # Timelines of sessions

What happens on an event loop with sessions, step by step and with a log.

* `Occurrence`, `Stage`: what is put down, and how things stand. A notification in progress is a list of
  sessions that have still to hear of it.
* `Deed id`: what is done by the application, the clock and the loop that concerns the session `id`;
  `Elsewhere`: what others may do meanwhile; `Move`: all that can happen next.
* `Later`, `Timeline`: moves one after another, from a world without sessions. A timeline is a history.
-/

namespace DeclarationFetch

open World (Tended Seated Waits)

/-! ## Stages -/

inductive Occurrence where
  /-- A pass was asked for. -/
  | asked (id : Nat)
  /-- The session heard of a change of its editor, and took it up unless it was resolving. -/
  | heard (id : Nat) (accepted : Bool)
  /-- A task of the session has gone on from one stop to the next, or to its end. -/
  | ran (id task : Nat) (before after : World) (result : Option (Except Fault Unit))
  /-- A task of the session was cancelled before it began. -/
  | dropped (id task : Nat)

def Occurrence.session : Occurrence → Nat
  | asked id | heard id _ | ran id _ _ _ _ | dropped id _ => id

def Course.result? {σ : Type} : Course σ → Option (Except Fault Unit)
  | .ended result _ => some result
  | .waiting _ _ _ => none

structure Stage where
  loop : SessionLoop
  ledger : Ledger := {}
  /-- The tasks that debouncers have made. -/
  debounced : List Nat := []
  /-- The sessions that have still to hear of a change. -/
  hearing : List Nat := []
  /-- What has happened, the latest first. -/
  log : List Occurrence := []

namespace Stage

def world (m : Stage) : World := m.loop.state

def session (m : Stage) (id : Nat) : Session := m.world.session id

structure Waiting (m : Stage) (id task : Nat) : Prop where
  owner : m.ledger.owners[task]? = some id
  unbegun : task ∉ m.ledger.begun
  running : Loop.task? m.loop task = some .running

def InFlight (m : Stage) (id task : Nat) : Prop := DeclarationFetch.InFlight m.loop m.ledger id task

def newTasks (m : Stage) (l : SessionLoop) : List Nat :=
  List.range' m.loop.tasks.length (l.tasks.length - m.loop.tasks.length)

def enter (m : Stage) (id : Nat) (l : SessionLoop) : Stage :=
  { m with loop := l, ledger := m.ledger.enter id l }

def created (m : Stage) (p : World.Plan) : Stage := m.enter (m.loop.create p).1 (m.loop.create p).2.2

def asked (m : Stage) (id : Nat) : Stage :=
  { m.enter id (m.loop.resolve id).2 with log := .asked id :: m.log }

def heard (m : Stage) (id : Nat) : Stage :=
  let l := (m.loop.contentChanged id).2
  { m.enter id l with
    debounced := m.newTasks l ++ m.debounced
    hearing := m.hearing.erase id
    log := .heard id (!m.world.marked id) :: m.log }

def fired (m : Stage) (id : Nat) : Stage :=
  { m.enter id (m.loop.fire id) with debounced := m.newTasks (m.loop.fire id) ++ m.debounced }

def disposed (m : Stage) (id : Nat) : Stage := { m with loop := m.loop.dispose id }

def occurrence (m : Stage) (id task : Nat) (thrown : Option Fault) (c : Course World) : Occurrence :=
  if thrown.isSome ∧ task ∉ m.ledger.begun then .dropped id task
  else .ran id task m.world c.state c.result?

def wentOn (m : Stage) (id task : Nat) (thrown : Option Fault) (c : Course World) : Stage :=
  { m with
    loop := (m.loop.without task).park task c
    ledger := m.ledger.begin_ task
    log := m.occurrence id task thrown c :: m.log }

theorem occurrence_cases (m : Stage) (id task : Nat) (thrown : Option Fault) (c : Course World) :
    m.occurrence id task thrown c = .dropped id task ∨
      m.occurrence id task thrown c = .ran id task m.world c.state c.result? := by
  unfold occurrence
  split
  · exact .inl rfl
  · exact .inr rfl

theorem occurrence_dropped (m : Stage) (id : Nat) {task : Nat} (fault : Fault) (c : Course World)
    (hu : task ∉ m.ledger.begun) : m.occurrence id task (some fault) c = .dropped id task :=
  if_pos ⟨rfl, hu⟩

theorem occurrence_ran (m : Stage) (id : Nat) {task : Nat} {thrown : Option Fault} (c : Course World)
    (h : thrown = none ∨ task ∈ m.ledger.begun) :
    m.occurrence id task thrown c = .ran id task m.world c.state c.result? := by
  refine if_neg fun ⟨hthrown, hu⟩ => ?_
  rcases h with rfl | hb
  · cases hthrown
  · exact hu hb

def withWorld (m : Stage) (w : World) : Stage := { m with loop := { m.loop with state := w } }

end Stage

/-! ## Moves -/

inductive Deed (id : Nat) (m : Stage) : Stage → Prop
  | created (p : World.Plan) (he : p.editor < m.world.editors.length)
      (hid : id = m.world.sessions.length) : Deed id m (m.created p)
  | asked (hid : id < m.world.sessions.length) : Deed id m (m.asked id)
  | heard (hid : id < m.world.sessions.length) (hh : id ∈ m.hearing) : Deed id m (m.heard id)
  | fired (hid : id < m.world.sessions.length) (hp : (m.session id).pending = true) :
      Deed id m (m.fired id)
  | disposed : Deed id m (m.disposed id)
  /-- A task goes on with the answer that it waits for, or with a fault that it is thrown. -/
  | wentOn {task : Nat} {resume : Option Fault → World → Course World}
      (ho : m.ledger.owners[task]? = some id) (hm : (task, resume) ∈ m.loop.pending)
      (thrown : Option Fault) : Deed id m (m.wentOn id task thrown (resume thrown m.world))

/-- What others leave alone of a session. -/
structure Session.Same (s s' : Session) : Prop where
  editor : s'.editor = s.editor
  callbacks : s'.callbacks = s.callbacks
  host : s'.resolver.host = s.resolver.host
  cache : s'.resolver.cache = s.resolver.cache
  newImports : s'.resolver.newImports = s.resolver.newImports
  isResolving : s'.isResolving = s.isResolving
  subscription : s'.subscription = s.subscription
  debouncer : s'.debouncer = s.debouncer

theorem Session.Same.refl (s : Session) : s.Same s := ⟨rfl, rfl, rfl, rfl, rfl, rfl, rfl, rfl⟩

/-- What others may do: change texts, options, pins, caches, the web, the clock and the files. -/
structure Elsewhere (w w' : World) : Prop where
  sessions : w'.sessions.length = w.sessions.length
  same : ∀ id, (w.session id).Same (w'.session id)
  editors : w.editors.length ≤ w'.editors.length
  listeners : ∀ e, (w'.editor e).listeners = (w.editor e).listeners
  updates : ∀ id, (w'.updatesOf id).Sublist (w.updatesOf id)

inductive Move (m : Stage) : Stage → Prop
  | deed {m' : Stage} (id : Nat) (h : Deed id m m') : Move m m'
  /-- Everybody who listens to an editor is to hear of a change. -/
  | notified (e : Nat) : Move m { m with hearing := (m.world.editor e).listeners ++ m.hearing }
  /-- Some do not hear of it, since a fault has come up. -/
  | hushed {hearing : List Nat} (h : hearing ⊆ m.hearing) : Move m { m with hearing := hearing }
  | blocked : Move m { m with loop := m.loop.block }
  | released : Move m { m with loop := m.loop.release }
  | elsewhere {w : World} (h : Elsewhere m.world w) : Move m (m.withWorld w)

abbrev Later : Stage → Stage → Prop := Relation.ReflTransGen Move

structure World.Blank (w : World) : Prop where
  sessions : w.sessions = []
  listeners : ∀ e, (w.editor e).listeners = []

def Timeline (m : Stage) : Prop := ∃ w : World, w.Blank ∧ Later { loop := { state := w } } m

theorem World.Blank.of_editor {w : World} {e : Editor} (hs : w.sessions = []) (he : w.editors = [e])
    (hl : e.listeners = []) : w.Blank where
  sessions := hs
  listeners other := by
    unfold World.editor
    rw [he]
    cases other with
    | zero => exact hl
    | succ => rfl

theorem Timeline.later {m m' : Stage} (h : Timeline m) (hl : Later m m') : Timeline m' := by
  obtain ⟨w, hw, hlater⟩ := h
  exact ⟨w, hw, hlater.trans hl⟩

theorem Timeline.move {m m' : Stage} (h : Timeline m) (hm : Move m m') : Timeline m' :=
  h.later (.single hm)

def Stage.opening (w : World) (p : World.Plan) : Stage := ({ loop := { state := w } } : Stage).created p

theorem Timeline.opening {w : World} {p : World.Plan} (hw : w.Blank) (he : p.editor < w.editors.length) :
    Timeline (Stage.opening w p) := by
  have hid : 0 = w.sessions.length := (congrArg List.length hw.sessions).symm
  exact ⟨w, hw, .single (.deed 0 (.created p he hid))⟩

/-! ## What the application may do -/

namespace Elsewhere

variable {w w' : World}

theorem of_eq (hs : w'.sessions = w.sessions) (he : w'.editors = w.editors)
    (hu : ∀ id, (w'.updatesOf id).Sublist (w.updatesOf id)) : Elsewhere w w' where
  sessions := congrArg List.length hs
  same id := by
    have hsession : w'.session id = w.session id := by
      unfold World.session
      rw [hs]
    rw [hsession]
    exact .refl _
  editors := Nat.le_of_eq (congrArg List.length he).symm
  listeners e := by
    unfold World.editor
    rw [he]
  updates := hu

theorem mapEditor (w : World) (e : Nat) {f : Editor → Editor} (hf : ∀ e, (f e).listeners = e.listeners) :
    Elsewhere w (w.mapEditor e f) where
  sessions := rfl
  same id := .refl _
  editors := Nat.le_of_eq List.length_set.symm
  listeners other := by
    rw [World.editor_mapEditor]
    split
    · next he => exact he.1 ▸ hf _
    · rfl
  updates id := .refl _

theorem mapSession (w : World) (id : Nat) {f : Session → Session} (hf : ∀ s, Session.Same s (f s)) :
    Elsewhere w (w.mapSession id f) where
  sessions := List.length_set
  same other := by
    unfold World.mapSession
    rw [World.session_setSession]
    split
    · next ho => exact ho.1 ▸ hf _
    · exact .refl _
  editors := Nat.le_refl _
  listeners e := rfl
  updates id := .refl _

end Elsewhere

namespace Move

variable (m : Stage)

theorem setText (e : Nat) (text : String) : Move m { m with loop := m.loop.setText e text } :=
  .elsewhere (.mapEditor m.world e fun _ => rfl)

theorem setOption (id : Nat) (name : String) (value : Value) :
    Move m { m with loop := (m.loop.setOption id name value).2 } := by
  unfold SessionLoop.setOption
  split
  · exact .elsewhere (.mapSession m.world id fun _ => ⟨rfl, rfl, rfl, rfl, rfl, rfl, rfl, rfl⟩)
  · exact .elsewhere (.of_eq rfl rfl fun _ => .refl _)

theorem clearCache (id : Nat) : Move m { m with loop := (m.loop.clearCache id).2 } :=
  .elsewhere (.of_eq rfl rfl fun _ => .refl _)

end Move

/-! ## Tasks by number -/

/-- A task goes on, if there is more for it to do. -/
def Stage.onward (m : Stage) (id task : Nat) (thrown : Option Fault) : Stage :=
  match m.loop.pending.find? fun entry => entry.1 = task with
  | some (key, resume) => m.wentOn id key thrown (resume thrown m.world)
  | none => m

def Stage.onwards (m : Stage) (id task : Nat) : Nat → Stage
  | 0 => m
  | n + 1 => (m.onwards id task n).onward id task none

/-- The task is the session's, and there is more for it to do. -/
def Stage.Goes (m : Stage) (id task : Nat) : Prop :=
  task ∈ m.loop.pending.map Prod.fst ∧ m.ledger.owners[task]? = some id

instance (m : Stage) (id task : Nat) : Decidable (m.Goes id task) := inferInstanceAs (Decidable (_ ∧ _))

namespace Stage

variable {m m' : Stage} {id task : Nat}

theorem onward_eq (h : m.Goes id task) (thrown : Option Fault) :
    ∃ resume, (task, resume) ∈ m.loop.pending ∧
      m.onward id task thrown = m.wentOn id task thrown (resume thrown m.world) := by
  obtain ⟨entry, hentry, hkey⟩ := List.mem_map.mp h.1
  unfold onward
  split
  · next key resume hfound =>
    have hsame : key = task := by simpa using List.find?_some hfound
    subst hsame
    exact ⟨resume, List.mem_of_find?_eq_some hfound, rfl⟩
  · next hnone =>
    have hno := List.find?_eq_none.mp hnone entry hentry
    rw [hkey] at hno
    simp at hno

theorem move_onward (h : m.Goes id task) (thrown : Option Fault) : Move m (m.onward id task thrown) := by
  obtain ⟨resume, hp, heq⟩ := onward_eq h thrown
  rw [heq]
  exact .deed id (.wentOn h.2 hp thrown)

theorem later_onwards {n : Nat} (h : ∀ k < n, (m.onwards id task k).Goes id task) :
    Later m (m.onwards id task n) := by
  induction n with
  | zero => exact .refl
  | succ n ih =>
    have hlater := ih fun k hk => h k (Nat.lt_succ_of_lt hk)
    exact hlater.tail (move_onward (h n (Nat.lt_succ_self n)) none)

theorem log_onward (h : m.Goes id task) : ∃ result, (m.onward id task none).log =
    .ran id task m.world (m.onward id task none).world result :: m.log := by
  obtain ⟨resume, hp, heq⟩ := onward_eq h none
  rw [heq]
  have hstate : (m.wentOn id task none (resume none m.world)).world = (resume none m.world).state := by
    show ((m.loop.without task).park task (resume none m.world)).state = _
    cases resume none m.world <;> rfl
  rw [hstate]
  exact ⟨_, congrArg (· :: m.log) (m.occurrence_ran id _ (.inl rfl))⟩

end Stage

/-! ## Logs -/

/-- Whatever is as `p` says has come with or before something that is as `q` says. -/
def Followed (p q : Occurrence → Prop) : List Occurrence → Prop
  | [] => True
  | o :: earlier => q o ∨ ¬ p o ∧ Followed p q earlier

namespace Followed

variable {p q : Occurrence → Prop} {o : Occurrence} {log later earlier : List Occurrence}

theorem cons (ho : ¬ p o) (h : Followed p q log) : Followed p q (o :: log) := .inr ⟨ho, h⟩

theorem of_none (h : ∀ o ∈ log, ¬ p o) : Followed p q log := by
  induction log with
  | nil => trivial
  | cons o log ih =>
    exact .cons (h o (List.mem_cons_self ..)) (ih fun o' ho => h o' (List.mem_cons_of_mem _ ho))

theorem exists_mem (h : Followed p q (later ++ o :: earlier)) (ho : p o) :
    ∃ o', o' ∈ later ++ [o] ∧ q o' := by
  induction later with
  | nil =>
    rcases h with hq | ⟨hnot, _⟩
    · exact ⟨o, List.mem_singleton_self o, hq⟩
    · exact absurd ho hnot
  | cons o' later ih =>
    rcases h with hq | ⟨_, h⟩
    · exact ⟨o', List.mem_cons_self .., hq⟩
    · obtain ⟨o'', hm, hq⟩ := ih h
      exact ⟨o'', List.mem_cons_of_mem _ hm, hq⟩

end Followed

/-! ## Histories -/

theorem Elsewhere.calm {w w' : World} (h : Elsewhere w w') : World.Calm w w' where
  sessions := Nat.le_of_eq h.sessions.symm
  marked id := (h.same id).isResolving

theorem Deed.history {id : Nat} {m m' : Stage} (h : Deed id m m') (hm : History m.loop m.ledger) :
    History m'.loop m'.ledger := by
  cases h with
  | created p he hid => exact .create p hm
  | asked hid => exact .resolve hid hm
  | heard hid => exact .changed hid hm
  | fired hid => exact .fired hid hm
  | disposed => exact .disposed id hm
  | wentOn ho hp thrown => exact .goesOn hp thrown hm

/-- What is a timeline here is a history. -/
theorem Move.history {m m' : Stage} (h : Move m m') (hm : History m.loop m.ledger) :
    History m'.loop m'.ledger := by
  cases h with
  | deed id h => exact h.history hm
  | notified e => exact hm
  | hushed h => exact hm
  | blocked => exact .blocked hm
  | released => exact .released hm
  | elsewhere h => exact .elsewhere h.calm hm

end DeclarationFetch
