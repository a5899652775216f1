import DeclarationFetch.Proofs.Session.Touch

/-! # What moves do

What a move does to a session, for each of the deeds that concern it and for all others.

* `Sound`: the invariant of timelines, with what every task that there is would do next;
  `Sound.wentOn_cases` reads it for a task that goes on.
* `Deed.touched` and `Deed.tasks`: what a deed is for the sessions, and for the tasks.
* `Aside id`: a move that passes a session by. `Move.aside_or`: every move does, or is a deed of it.
-/

namespace DeclarationFetch

open World (Tended Seated Waits)

/-! ## The invariant -/

/-- The books are in order, and each task that there is goes on as its session has it. -/
structure Sound (m : Stage) : Prop where
  history : History m.loop m.ledger
  listening : m.world.Listening
  editors : ∀ id, id < m.world.sessions.length → (m.session id).editor < m.world.editors.length
  known : ∀ o ∈ m.log, o.session < m.world.sessions.length
  waits : ∀ task resume id, (task, resume) ∈ m.loop.pending → m.ledger.owners[task]? = some id →
    task ∉ m.ledger.begun → Waits id resume
  tends : ∀ task resume id, (task, resume) ∈ m.loop.pending → m.ledger.owners[task]? = some id →
    task ∈ m.ledger.begun → ∀ thrown w, w.Seated id (m.session id).resolver.host →
      (resume thrown w).Tends id (m.session id).resolver.host .final (w.Owes id) w

/-- What a task does that goes on in a world. -/
inductive WentOn (m : Stage) (id task : Nat) : Option Fault → Course World → Prop
  | dropped (fault : Fault) (hu : task ∉ m.ledger.begun) :
      WentOn m id task (some fault) (.ended (.error fault) m.world)
  /-- Another task is about it. -/
  | passed (hu : task ∉ m.ledger.begun) (hm : m.world.marked id = true) :
      WentOn m id task none (.ended (.ok ()) m.world)
  | began {c : Course World} (hu : task ∉ m.ledger.begun) (hm : m.world.marked id = false)
      (ht : c.Tends id (m.session id).resolver.host .final False m.world)
      (hr : (m.session id).Silent → m.world.reads id < c.state.reads id) : WentOn m id task none c
  | resumed {c : Course World} (thrown : Option Fault) (hb : task ∈ m.ledger.begun)
      (ht : c.Tends id (m.session id).resolver.host .final (m.world.Owes id) m.world) :
      WentOn m id task thrown c

theorem WentOn.tended {m : Stage} {id task : Nat} {thrown : Option Fault} {c : Course World}
    (h : WentOn m id task thrown c) : Tended id m.world c.state := by
  cases h with
  | dropped => exact .refl _
  | passed => exact .refl _
  | began hu hm ht hr => exact ht.tended
  | resumed thrown hb ht => exact ht.tended

/-- Where a task waits that has gone on, it has begun, and goes on as it should. -/
theorem WentOn.waiting {m : Stage} {id task : Nat} {thrown : Option Fault} {gated : Bool} {w : World}
    {resume : Option Fault → World → Course World}
    (h : WentOn m id task thrown (.waiting gated w resume)) :
    ∀ thrown v, v.Seated id (m.session id).resolver.host →
      (resume thrown v).Tends id (m.session id).resolver.host .final (v.Owes id) v := by
  cases h with
  | began hu hm ht hr => exact ht.2.2
  | resumed thrown hb ht => exact ht.2.2

namespace Sound

variable {m m' : Stage} {id task : Nat}

theorem guarded (h : Sound m) : Guarded m.loop m.ledger := h.history.guarded

theorem seated (h : Sound m) (hid : id < m.world.sessions.length) :
    m.world.Seated id (m.session id).resolver.host := ⟨hid, h.editors id hid, rfl⟩

theorem lt_of_owner (h : Sound m) (ho : m.ledger.owners[task]? = some id) :
    id < m.world.sessions.length :=
  h.guarded.known id (List.mem_of_getElem? ho)

theorem wentOn_cases (h : Sound m) {resume : Option Fault → World → Course World}
    (ho : m.ledger.owners[task]? = some id) (hm : (task, resume) ∈ m.loop.pending)
    (thrown : Option Fault) : WentOn m id task thrown (resume thrown m.world) := by
  have hseated := h.seated (h.lt_of_owner ho)
  by_cases hb : task ∈ m.ledger.begun
  · exact .resumed thrown hb (h.tends task resume id hm ho hb thrown m.world hseated)
  · have hwaits := h.waits task resume id hm ho hb
    cases thrown with
    | some fault =>
      rw [hwaits.dropped]
      exact .dropped fault hb
    | none =>
      cases hmarked : m.world.marked id with
      | true =>
        rw [hwaits.marked _ hmarked]
        exact .passed hb hmarked
      | false =>
        exact .began hb hmarked (hwaits.tends _ _ hseated hmarked) (hwaits.reads _ _ hseated hmarked)

end Sound
theorem Loop.state_park {l : SessionLoop} {task : Nat} (c : Course World) :
    (l.park task c).state = c.state := by
  cases c <;> rfl

theorem Deed.touched {id : Nat} {m m' : Stage} (h : Deed id m m') (hm : Sound m) :
    Touched id m.world m'.world := by
  cases h with
  | created p he hid =>
    obtain rfl : id = (m.loop.create p).1 := hid.trans (SessionLoop.create_fst m.loop p).symm
    exact touched_create m.loop p he
  | asked hid => exact .of_eq rfl rfl rfl
  | heard hid hh => exact (SessionLoop.hears hid).touched
  | fired hid hp => exact touched_fire m.loop id
  | disposed => exact .of_tended (World.tended_dispose m.world id)
  | wentOn ho hp thrown =>
    have htended := (hm.wentOn_cases ho hp thrown).tended
    show Touched id m.world ((m.loop.without _).park _ _).state
    rw [Loop.state_park]
    exact .of_tended htended
theorem Stage.session_disposed {id : Nat} (m : Stage) (hid : id < m.world.sessions.length) :
    (m.disposed id).session id = (m.session id).letGo := by
  show (m.world.dispose id).session id = _
  rw [World.session_dispose, if_pos ⟨rfl, hid⟩]
  rfl

/-! ## Tasks -/

structure Spawned (id : Nat) (body : World → Course World) (m m' : Stage) : Prop where
  pending : ∀ entry, entry ∈ m'.loop.pending ↔
    entry = (m.loop.tasks.length, Loop.unbegun body) ∨ entry ∈ m.loop.pending
  tasks : m'.loop.tasks = m.loop.tasks ++ [.running]
  owners : m'.ledger.owners = m.ledger.owners ++ [id]
  begun : m'.ledger.begun = m.ledger.begun

structure Idle (m m' : Stage) : Prop where
  pending : ∀ entry, entry ∈ m'.loop.pending ↔ entry ∈ m.loop.pending
  tasks : m'.loop.tasks = m.loop.tasks
  ledger : m'.ledger = m.ledger

theorem spawned_enter {m : Stage} (hm : Guarded m.loop m.ledger) (id : Nat) (l' : SessionLoop)
    (body : World → Course World) (hp : l'.pending = (Loop.spawn m.loop body).2.pending)
    (ht : l'.tasks = m.loop.tasks ++ [.running]) : Spawned id body m (m.enter id l') where
  pending entry := by
    show entry ∈ l'.pending ↔ _
    rw [hp]
    simp only [Loop.pending, Loop.spawn, List.mem_append, List.mem_singleton]
    constructor
    · rintro ((h | h) | h)
      · exact .inr (.inl h)
      · exact .inl h
      · exact .inr (.inr h)
    · rintro (h | h | h)
      · exact .inl (.inr h)
      · exact .inl (.inl h)
      · exact .inr h
  tasks := ht
  owners := congrArg Ledger.owners (hm.enter_spawn id l' body ht)
  begun := rfl

theorem idle_enter {m : Stage} (hm : Guarded m.loop m.ledger) (id : Nat) {l' : SessionLoop}
    (hp : l'.pending = m.loop.pending) (ht : l'.tasks = m.loop.tasks) : Idle m (m.enter id l') where
  pending entry := by
    show entry ∈ l'.pending ↔ _
    rw [hp]
  tasks := ht
  ledger := hm.enter_eq ht

section Making

variable {m m' : Stage} {id other task : Nat} {body : World → Course World}

theorem Spawned.before (h : Spawned id body m m') (hm : Guarded m.loop m.ledger)
    (ht : task < m.loop.tasks.length) : m'.ledger.owners[task]? = m.ledger.owners[task]? ∧
      Loop.task? m'.loop task = Loop.task? m.loop task := by
  have hlen : m.ledger.owners.length = m.loop.tasks.length := hm.owners
  refine ⟨?_, ?_⟩
  · rw [h.owners, List.getElem?_append_left (hlen.symm ▸ ht)]
  · unfold Loop.task?
    rw [h.tasks, List.getElem?_append_left ht]

theorem Spawned.made (h : Spawned id body m m') (hm : Guarded m.loop m.ledger) :
    m'.ledger.owners[m.loop.tasks.length]? = some id ∧
      Loop.task? m'.loop m.loop.tasks.length = some .running := by
  have hlen : m.ledger.owners.length = m.loop.tasks.length := hm.owners
  refine ⟨?_, ?_⟩
  · rw [h.owners, ← hlen, List.getElem?_concat_length]
  · unfold Loop.task?
    rw [h.tasks, List.getElem?_concat_length]

theorem Spawned.lt_or_eq (h : Spawned id body m m') {state : TaskState}
    (hr : Loop.task? m'.loop task = some state) :
    task < m.loop.tasks.length ∨ task = m.loop.tasks.length := by
  have hlt : task < m'.loop.tasks.length := (List.getElem?_eq_some_iff.mp hr).1
  rw [h.tasks, List.length_append, List.length_singleton] at hlt
  exact Nat.lt_succ_iff_lt_or_eq.mp hlt

theorem Spawned.waiting (h : Spawned id body m m') (hm : Guarded m.loop m.ledger) :
    m'.Waiting other task ↔ m.Waiting other task ∨ other = id ∧ task = m.loop.tasks.length := by
  constructor
  · rintro ⟨ho, hu, hr⟩
    rw [h.begun] at hu
    rcases h.lt_or_eq hr with ht | rfl
    · obtain ⟨howner, htask⟩ := h.before hm ht
      exact .inl ⟨howner.symm.trans ho, hu, htask.symm.trans hr⟩
    · exact .inr ⟨Option.some.inj (ho.symm.trans (h.made hm).1), rfl⟩
  · rintro (⟨ho, hu, hr⟩ | ⟨rfl, rfl⟩)
    · obtain ⟨howner, htask⟩ := h.before hm (List.getElem?_eq_some_iff.mp hr).1
      exact ⟨howner.trans ho, h.begun.symm ▸ hu, htask.trans hr⟩
    · refine ⟨(h.made hm).1, ?_, (h.made hm).2⟩
      rw [h.begun]
      exact fun hb => Nat.lt_irrefl _ (hm.begun _ hb)

theorem Spawned.inFlight (h : Spawned id body m m') (hm : Guarded m.loop m.ledger) :
    m'.InFlight other task ↔ m.InFlight other task := by
  constructor
  · rintro ⟨ho, hb, hr⟩
    rw [h.begun] at hb
    obtain ⟨howner, htask⟩ := h.before hm (hm.begun task hb)
    exact ⟨howner.symm.trans ho, hb, htask.symm.trans hr⟩
  · rintro ⟨ho, hb, hr⟩
    obtain ⟨howner, htask⟩ := h.before hm (hm.begun task hb)
    exact ⟨howner.trans ho, h.begun.symm ▸ hb, htask.trans hr⟩

theorem Stage.waiting_congr (ht : m'.loop.tasks = m.loop.tasks) (hl : m'.ledger = m.ledger) :
    m'.Waiting other task ↔ m.Waiting other task := by
  have htask : Loop.task? m'.loop task = Loop.task? m.loop task := congrArg (·[task]?) ht
  constructor
  · rintro ⟨ho, hu, hr⟩
    rw [hl] at ho hu
    exact ⟨ho, hu, htask ▸ hr⟩
  · rintro ⟨ho, hu, hr⟩
    exact ⟨hl.symm ▸ ho, hl.symm ▸ hu, htask.trans hr⟩

theorem Stage.inFlight_congr (ht : m'.loop.tasks = m.loop.tasks) (hl : m'.ledger = m.ledger) :
    m'.InFlight other task ↔ m.InFlight other task := by
  have htask : Loop.task? m'.loop task = Loop.task? m.loop task := congrArg (·[task]?) ht
  constructor
  · rintro ⟨ho, hb, hr⟩
    rw [hl] at ho hb
    exact ⟨ho, hb, htask ▸ hr⟩
  · rintro ⟨ho, hb, hr⟩
    exact ⟨hl.symm ▸ ho, hl.symm ▸ hb, htask.trans hr⟩

end Making

/-! ## Tasks that go on -/

theorem Loop.mem_pending_park {l : SessionLoop} {task : Nat} {c : Course World}
    {entry : Nat × (Option Fault → World → Course World)} :
    entry ∈ ((l.without task).park task c).pending ↔
      entry ∈ l.pending ∧ entry.1 ≠ task ∨
        ∃ gated w resume, c = .waiting gated w resume ∧ entry = (task, resume) := by
  rw [← Loop.mem_pending_without]
  cases c with
  | ended result w =>
    refine ⟨.inl, fun h => h.elim id ?_⟩
    rintro ⟨_, _, _, hc, _⟩
    cases hc
  | waiting gated w resume =>
    show entry ∈ (l.without task).ready ++ ((l.without task).waiting ++ [(task, resume)]) ↔ _
    rw [← List.append_assoc, List.mem_append, List.mem_singleton]
    refine or_congr_right ⟨fun h => ⟨gated, w, resume, rfl, h⟩, ?_⟩
    rintro ⟨_, _, _, hc, he⟩
    cases hc
    exact he

theorem Loop.task?_park {l : SessionLoop} {task task' : Nat} {c : Course World} (hne : task' ≠ task) :
    Loop.task? ((l.without task).park task c) task' = Loop.task? l task' := by
  cases c with
  | ended result w => exact List.getElem?_set_ne (Ne.symm hne)
  | waiting gated w resume => rfl

theorem Loop.task?_park_self {l : SessionLoop} {task : Nat} {c : Course World}
    (hr : Loop.task? l task = some .running) :
    Loop.task? ((l.without task).park task c) task = some .running ↔ c.result? = none := by
  cases c with
  | ended result w =>
    have hset : Loop.task? ((l.without task).park task (.ended result w)) task =
        some (.ofResult result) := List.getElem?_set_self (List.getElem?_eq_some_iff.mp hr).1
    rw [hset]
    cases result <;> simp [TaskState.ofResult, Course.result?]
  | waiting gated w resume => exact ⟨fun _ => rfl, fun _ => hr⟩

section GoingOn

variable {m : Stage} {id other task task' : Nat} {thrown : Option Fault} {c : Course World}

theorem Stage.waiting_wentOn :
    (m.wentOn id task thrown c).Waiting other task' ↔ task' ≠ task ∧ m.Waiting other task' := by
  constructor
  · rintro ⟨ho, hu, hr⟩
    have hne : task' ≠ task := fun he => hu (List.mem_cons.mpr (.inl he))
    exact ⟨hne, ho, fun hb => hu (List.mem_cons_of_mem _ hb), Loop.task?_park hne ▸ hr⟩
  · rintro ⟨hne, ho, hu, hr⟩
    exact ⟨ho, fun hb => (List.mem_cons.mp hb).elim hne hu, (Loop.task?_park hne).trans hr⟩

theorem Stage.inFlight_wentOn (ho : m.ledger.owners[task]? = some id)
    (hr : Loop.task? m.loop task = some .running) :
    (m.wentOn id task thrown c).InFlight other task' ↔
      task' ≠ task ∧ m.InFlight other task' ∨ task' = task ∧ other = id ∧ c.result? = none := by
  constructor
  · rintro ⟨ho', hb, hr'⟩
    by_cases hne : task' = task
    · subst hne
      have hid : id = other := Option.some.inj (ho.symm.trans ho')
      exact .inr ⟨rfl, hid.symm, (Loop.task?_park_self hr).mp hr'⟩
    · refine .inl ⟨hne, ho', ?_, Loop.task?_park hne ▸ hr'⟩
      exact (List.mem_cons.mp hb).resolve_left hne
  · rintro (⟨hne, ho', hb, hr'⟩ | ⟨rfl, rfl, hc⟩)
    · exact ⟨ho', List.mem_cons_of_mem _ hb, (Loop.task?_park hne).trans hr'⟩
    · exact ⟨ho, List.mem_cons_self .., (Loop.task?_park_self hr).mpr hc⟩

theorem Sound.running (h : Sound m) {resume : Option Fault → World → Course World}
    (hm : (task, resume) ∈ m.loop.pending) : Loop.task? m.loop task = some .running :=
  (h.guarded.running task).mp (List.mem_map_of_mem hm)

end GoingOn

/-- What a deed is for the tasks. -/
inductive Deed.Tasks (id : Nat) (m : Stage) : Stage → Prop
  | spawned {m' : Stage} {body : World → Course World} (h : Spawned id body m m')
      (hw : Waits id (Loop.unbegun body)) : Deed.Tasks id m m'
  | idle {m' : Stage} (h : Idle m m') : Deed.Tasks id m m'
  | wentOn {task : Nat} {resume : Option Fault → World → Course World} {thrown : Option Fault}
      (ho : m.ledger.owners[task]? = some id) (hp : (task, resume) ∈ m.loop.pending)
      (h : WentOn m id task thrown (resume thrown m.world)) :
      Deed.Tasks id m (m.wentOn id task thrown (resume thrown m.world))

namespace Sound

variable {m : Stage} {id : Nat}

theorem spawned_asked (hm : Sound m) : Spawned id (World.resolveContents id) m (m.asked id) := by
  have h := spawned_enter hm.guarded id (m.loop.resolve id).2 (World.resolveContents id) rfl rfl
  exact ⟨h.pending, h.tasks, h.owners, h.begun⟩

theorem spawned_fired (hm : Sound m) : Spawned id (World.resolveContents id) m (m.fired id) := by
  have h := spawned_enter hm.guarded id (m.loop.fire id) (World.resolveContents id) rfl rfl
  exact ⟨h.pending, h.tasks, h.owners, h.begun⟩

/-- A session that hears of a change makes a task at once, or none. -/
theorem heard_tasks (hm : Sound m) (hid : id < m.world.sessions.length) :
    Spawned id (World.resolveContents id) m (m.heard id) ∨ Idle m (m.heard id) := by
  have hhears := SessionLoop.hears (l := m.loop) hid
  unfold Stage.heard
  generalize (m.loop.contentChanged id).2 = l' at hhears
  have hidle : l'.pending = m.loop.pending → l'.tasks = m.loop.tasks → Idle m (m.enter id l') :=
    idle_enter hm.guarded id
  cases hhears with
  | passed => exact .inr ⟨(hidle rfl rfl).pending, rfl, (hidle rfl rfl).ledger⟩
  | raised => exact .inr ⟨(hidle rfl rfl).pending, rfl, (hidle rfl rfl).ledger⟩
  | armed => exact .inr ⟨(hidle rfl rfl).pending, rfl, (hidle rfl rfl).ledger⟩
  | atOnce =>
    have h := spawned_enter hm.guarded id _ (World.resolveContents id) rfl rfl
    exact .inl ⟨h.pending, h.tasks, h.owners, h.begun⟩

end Sound

theorem Deed.tasks {id : Nat} {m m' : Stage} (h : Deed id m m') (hm : Sound m) :
    Deed.Tasks id m m' := by
  cases h with
  | created p he hid =>
    obtain rfl : id = (m.loop.create p).1 := hid.trans (SessionLoop.create_fst m.loop p).symm
    exact .spawned (spawned_enter hm.guarded _ _ (World.firstPass (m.loop.create p).1) rfl rfl)
      (World.waits_firstPass _)
  | asked hid => exact .spawned hm.spawned_asked (World.waits_resolveContents id)
  | heard hid hh =>
    rcases hm.heard_tasks hid with h | h
    · exact .spawned h (World.waits_resolveContents id)
    · exact .idle h
  | fired hid hp => exact .spawned hm.spawned_fired (World.waits_resolveContents id)
  | disposed => exact .idle ⟨fun _ => Iff.rfl, rfl, rfl⟩
  | wentOn ho hp thrown => exact .wentOn ho hp (hm.wentOn_cases ho hp thrown)

/-- A deed adds at most one line to the log, about its session. -/
theorem Deed.log {id : Nat} {m m' : Stage} (h : Deed id m m') (hm : Sound m) :
    m'.log = m.log ∨
      ∃ o, m'.log = o :: m.log ∧ o.session = id ∧ id < m.world.sessions.length := by
  cases h with
  | created p he hid => exact .inl rfl
  | asked hid => exact .inr ⟨_, rfl, rfl, hid⟩
  | heard hid hh => exact .inr ⟨_, rfl, rfl, hid⟩
  | fired hid hp => exact .inl rfl
  | disposed => exact .inl rfl
  | wentOn ho hp thrown =>
    refine .inr ⟨_, rfl, ?_, hm.lt_of_owner ho⟩
    rcases m.occurrence_cases id _ thrown _ with he | he <;>
    · rw [he]
      rfl

/-! ## Timelines are sound -/

theorem Touched.attached_any {id other : Nat} {w w' : World} (h : Touched id w w')
    (ho : other < w.sessions.length) : (w.session other).Attached (w'.session other) := by
  by_cases hne : other = id
  · subst hne
    exact h.attached ho
  · rw [h.others other hne]
    exact .refl _

theorem Deed.Tasks.waits {id : Nat} {m m' : Stage} (h : Deed.Tasks id m m') (hm : Sound m) :
    ∀ task resume other, (task, resume) ∈ m'.loop.pending → m'.ledger.owners[task]? = some other →
      task ∉ m'.ledger.begun → Waits other resume := by
  intro task resume other hp ho hu
  cases h with
  | spawned h hw =>
    rw [h.begun] at hu
    rcases (h.pending _).mp hp with he | hp
    · cases he
      exact Option.some.inj ((h.made hm.guarded).1.symm.trans ho) ▸ hw
    · have howner := (h.before hm.guarded (hm.guarded.lt_of_pending hp)).1
      exact hm.waits task resume other hp (howner.symm.trans ho) hu
  | idle h =>
    rw [h.ledger] at ho hu
    exact hm.waits task resume other ((h.pending _).mp hp) ho hu
  | wentOn ho' hp' h =>
    rcases Loop.mem_pending_park.mp hp with ⟨hp, hne⟩ | ⟨gated, w, resume', _, he⟩
    · exact hm.waits task resume other hp ho fun hb => hu (List.mem_cons_of_mem _ hb)
    · cases he
      exact absurd (List.mem_cons_self ..) hu

theorem Deed.Tasks.tends {id : Nat} {m m' : Stage} (h : Deed.Tasks id m m') (hm : Sound m)
    (ht : Touched id m.world m'.world) :
    ∀ task resume other, (task, resume) ∈ m'.loop.pending → m'.ledger.owners[task]? = some other →
      task ∈ m'.ledger.begun → ∀ thrown w, w.Seated other (m'.session other).resolver.host →
        (resume thrown w).Tends other (m'.session other).resolver.host .final (w.Owes other) w := by
  intro task resume other hp ho hb
  have hold : (task, resume) ∈ m.loop.pending → m.ledger.owners[task]? = some other →
      task ∈ m.ledger.begun → ∀ thrown w, w.Seated other (m'.session other).resolver.host →
        (resume thrown w).Tends other (m'.session other).resolver.host .final (w.Owes other) w :=
    fun hp ho hb => by
      have hhost : (m'.session other).resolver.host = (m.session other).resolver.host :=
        (ht.attached_any (hm.lt_of_owner ho)).host
      rw [hhost]
      exact hm.tends task resume other hp ho hb
  cases h with
  | spawned h hw =>
    rw [h.begun] at hb
    have hlt := hm.guarded.begun task hb
    rcases (h.pending _).mp hp with he | hp
    · cases he
      exact absurd hlt (Nat.lt_irrefl _)
    · exact hold hp ((h.before hm.guarded hlt).1.symm.trans ho) hb
  | idle h =>
    rw [h.ledger] at ho hb
    exact hold ((h.pending _).mp hp) ho hb
  | wentOn ho' hp' h =>
    rcases Loop.mem_pending_park.mp hp with ⟨hp, hne⟩ | ⟨gated, w, resume', hc, he⟩
    · exact hold hp ho ((List.mem_cons.mp hb).resolve_left hne)
    · cases he
      obtain rfl : id = other := Option.some.inj (ho'.symm.trans ho)
      have hhost := (ht.attached_any (hm.lt_of_owner ho')).host
      intro thrown v hv
      have hwaiting := (hc ▸ h).waiting thrown v
      have hhost' : ((m.wentOn id task _ _).session id).resolver.host =
        (m.session id).resolver.host := hhost
      rw [hhost'] at hv ⊢
      exact hwaiting hv

theorem Deed.sound {id : Nat} {m m' : Stage} (h : Deed id m m') (hm : Sound m) : Sound m' where
  history := h.history hm.history
  listening := (h.touched hm).listening hm.listening
  editors other ho := by
    have htouched := h.touched hm
    by_cases hne : other = id
    · subst hne
      rcases htouched.editor ho with hlt | ⟨hid, he⟩
      · exact hlt
      · have heditor : (m'.session other).editor = (m.session other).editor := he
        rw [heditor]
        exact Nat.lt_of_lt_of_le (hm.editors _ hid) htouched.editors
    · have hsession : m'.session other = m.session other := htouched.others other hne
      rw [hsession]
      exact Nat.lt_of_lt_of_le (hm.editors other (htouched.newcomer other hne ho)) htouched.editors
  known o ho := by
    have hsessions := (h.touched hm).sessions
    rcases h.log hm with hlog | ⟨o', hlog, rfl, hid⟩
    · exact Nat.lt_of_lt_of_le (hm.known o (hlog ▸ ho)) hsessions
    · rw [hlog] at ho
      rcases List.mem_cons.mp ho with rfl | ho
      · exact Nat.lt_of_lt_of_le hid hsessions
      · exact Nat.lt_of_lt_of_le (hm.known o ho) hsessions
  waits := (h.tasks hm).waits hm
  tends := (h.tasks hm).tends hm (h.touched hm)

theorem Move.sound {m m' : Stage} (h : Move m m') (hm : Sound m) : Sound m' := by
  have hhistory := h.history hm.history
  cases h with
  | deed id h => exact h.sound hm
  | notified e => exact ⟨hhistory, hm.listening, hm.editors, hm.known, hm.waits, hm.tends⟩
  | hushed h => exact ⟨hhistory, hm.listening, hm.editors, hm.known, hm.waits, hm.tends⟩
  | blocked => exact ⟨hhistory, hm.listening, hm.editors, hm.known, hm.waits, hm.tends⟩
  | released =>
    have hpending : m.loop.release.pending = m.loop.pending := List.append_nil _
    refine ⟨hhistory, hm.listening, hm.editors, hm.known, fun task resume other hp => ?_,
      fun task resume other hp => ?_⟩
    · exact hm.waits task resume other (hpending ▸ hp)
    · exact hm.tends task resume other (hpending ▸ hp)
  | @elsewhere w h =>
    refine ⟨hhistory, ?_, fun other ho => ?_, fun o ho => ?_, hm.waits, fun task resume other hp ho hb => ?_⟩
    · refine World.listening_of_kept h.sessions h.listeners (fun other => ?_) hm.listening
      have hdisposed := congrArg Subscription.disposed (h.same other).subscription
      exact ⟨(h.same other).editor, hdisposed⟩
    · have heditor : (w.session other).editor = (m.session other).editor := (h.same other).editor
      rw [show Stage.session _ other = w.session other from rfl, heditor]
      exact Nat.lt_of_lt_of_le (hm.editors other (h.sessions ▸ ho)) h.editors
    · exact Nat.lt_of_lt_of_eq (hm.known o ho) h.sessions.symm
    · have hhost : (w.session other).resolver.host = (m.session other).resolver.host :=
        (h.same other).host
      show ∀ thrown v, v.Seated other (w.session other).resolver.host →
        (resume thrown v).Tends other (w.session other).resolver.host .final (v.Owes other) v
      rw [hhost]
      exact hm.tends task resume other hp ho hb

theorem World.Blank.sound {w : World} (hw : w.Blank) : Sound { loop := { state := w } } where
  history := .start hw.sessions
  listening e id hm := by
    rw [show ((Stage.mk { state := w } {} [] [] []).world.editor e).listeners = [] from hw.listeners e] at hm
    exact (List.not_mem_nil hm).elim
  editors id hid := by
    rw [show (Stage.mk { state := w } {} [] [] []).world.sessions = [] from hw.sessions] at hid
    exact absurd hid (Nat.not_lt_zero _)
  known o ho := (List.not_mem_nil ho).elim
  waits task resume id hp := (List.not_mem_nil hp).elim
  tends task resume id hp := (List.not_mem_nil hp).elim

theorem Later.sound {m m' : Stage} (h : Later m m') (hm : Sound m) : Sound m' := by
  induction h with
  | refl => exact hm
  | tail _ hmove ih => exact hmove.sound ih

theorem Move.attached {m m' : Stage} (h : Move m m') (hm : Sound m) :
    m.world.sessions.length ≤ m'.world.sessions.length ∧
      ∀ id, id < m.world.sessions.length → (m.session id).Attached (m'.session id) := by
  cases h with
  | deed other h => exact ⟨(h.touched hm).sessions, fun id hid => (h.touched hm).attached_any hid⟩
  | notified e => exact ⟨Nat.le_refl _, fun _ _ => .refl _⟩
  | hushed h => exact ⟨Nat.le_refl _, fun _ _ => .refl _⟩
  | blocked => exact ⟨Nat.le_refl _, fun _ _ => .refl _⟩
  | released => exact ⟨Nat.le_refl _, fun _ _ => .refl _⟩
  | elsewhere h =>
    exact ⟨Nat.le_of_eq h.sessions.symm,
      fun id _ => ⟨(h.same id).callbacks, (h.same id).host, (h.same id).cache⟩⟩

theorem Later.attached {m m' : Stage} (h : Later m m') (hm : Sound m) :
    m.world.sessions.length ≤ m'.world.sessions.length ∧
      ∀ id, id < m.world.sessions.length → (m.session id).Attached (m'.session id) := by
  induction h with
  | refl => exact ⟨Nat.le_refl _, fun _ _ => .refl _⟩
  | tail hlater hmove ih =>
    obtain ⟨hle, hattached⟩ := hmove.attached (Later.sound hlater hm)
    refine ⟨Nat.le_trans ih.1 hle, fun id hid => (ih.2 id hid).trans ?_⟩
    exact hattached id (Nat.lt_of_lt_of_le hid ih.1)

theorem Timeline.sound {m : Stage} (h : Timeline m) : Sound m := by
  obtain ⟨w, hw, hlater⟩ := h
  exact hlater.sound hw.sound

/-! ## Moves that pass a session by -/

/-- What a move leaves to a session that it passes by. -/
structure Aside (id : Nat) (m m' : Stage) : Prop where
  same : (m.session id).Same (m'.session id)
  waiting : ∀ task, m'.Waiting id task ↔ m.Waiting id task
  inFlight : ∀ task, m'.InFlight id task ↔ m.InFlight id task
  debounced : m.debounced ⊆ m'.debounced
  log : m'.log = m.log ∨ ∃ o, m'.log = o :: m.log ∧ o.session ≠ id
  hearing : id ∈ m'.hearing → id ∈ m.hearing ∨ ∃ e, id ∈ (m.world.editor e).listeners
  updates : (m'.world.updatesOf id).Sublist (m.world.updatesOf id)

namespace Deed

variable {id other : Nat} {m m' : Stage}

theorem debounced_subset (h : Deed id m m') : m.debounced ⊆ m'.debounced := by
  cases h with
  | created p he hid => exact fun _ ht => ht
  | asked hid => exact fun _ ht => ht
  | heard hid hh => exact fun _ ht => List.mem_append_right _ ht
  | fired hid hp => exact fun _ ht => List.mem_append_right _ ht
  | disposed => exact fun _ ht => ht
  | wentOn ho hp thrown => exact fun _ ht => ht

theorem hearing_subset (h : Deed id m m') : m'.hearing ⊆ m.hearing := by
  cases h with
  | created p he hid => exact fun _ ht => ht
  | asked hid => exact fun _ ht => ht
  | heard hid hh => exact fun _ ht => List.mem_of_mem_erase ht
  | fired hid hp => exact fun _ ht => ht
  | disposed => exact fun _ ht => ht
  | wentOn ho hp thrown => exact fun _ ht => ht

theorem waiting_other (h : Deed id m m') (hm : Sound m) (hne : other ≠ id) (task : Nat) :
    m'.Waiting other task ↔ m.Waiting other task := by
  cases h.tasks hm with
  | spawned h hw => exact (h.waiting hm.guarded).trans (or_iff_left fun he => hne he.1)
  | idle h => exact Stage.waiting_congr h.tasks h.ledger
  | wentOn ho hp h =>
    refine Stage.waiting_wentOn.trans (and_iff_right_of_imp ?_)
    rintro hwaiting rfl
    exact hne (Option.some.inj (hwaiting.owner.symm.trans ho))

theorem inFlight_other (h : Deed id m m') (hm : Sound m) (hne : other ≠ id) (task : Nat) :
    m'.InFlight other task ↔ m.InFlight other task := by
  cases h.tasks hm with
  | spawned h hw => exact h.inFlight hm.guarded
  | idle h => exact Stage.inFlight_congr h.tasks h.ledger
  | wentOn ho hp h =>
    refine (Stage.inFlight_wentOn ho (hm.running hp)).trans ?_
    refine (or_iff_left fun he => hne he.2.1).trans (and_iff_right_of_imp ?_)
    rintro hflight rfl
    exact hne (Option.some.inj (hflight.owner.symm.trans ho))

theorem aside (h : Deed id m m') (hm : Sound m) (hne : other ≠ id) : Aside other m m' where
  same := by
    have hsession : m'.session other = m.session other := (h.touched hm).others other hne
    rw [hsession]
    exact .refl _
  waiting := h.waiting_other hm hne
  inFlight := h.inFlight_other hm hne
  debounced := h.debounced_subset
  log := (h.log hm).imp_right fun ⟨o, hlog, ho, _⟩ => ⟨o, hlog, ho.symm ▸ hne.symm⟩
  hearing hh := .inl (h.hearing_subset hh)
  updates := (h.touched hm).updates other hne ▸ List.Sublist.refl _

end Deed

theorem Aside.of_idle {id : Nat} {m m' : Stage} (ht : m'.loop.tasks = m.loop.tasks)
    (hg : m'.ledger = m.ledger) (hd : m'.debounced = m.debounced) (hl : m'.log = m.log)
    (hs : (m.session id).Same (m'.session id))
    (hh : id ∈ m'.hearing → id ∈ m.hearing ∨ ∃ e, id ∈ (m.world.editor e).listeners)
    (hu : (m'.world.updatesOf id).Sublist (m.world.updatesOf id)) : Aside id m m' where
  same := hs
  waiting _ := Stage.waiting_congr ht hg
  inFlight _ := Stage.inFlight_congr ht hg
  debounced := hd ▸ List.Subset.refl _
  log := .inl hl
  hearing := hh
  updates := hu

/-- Whatever happens is a deed of a session or passes it by. -/
theorem Move.aside_or {m m' : Stage} (h : Move m m') (hm : Sound m) (id : Nat) :
    Deed id m m' ∨ Aside id m m' := by
  have hsame := Session.Same.refl (m.session id)
  have hupdates := List.Sublist.refl (m.world.updatesOf id)
  cases h with
  | deed other h =>
    by_cases hne : id = other
    · exact .inl (hne ▸ h)
    · exact .inr (h.aside hm hne)
  | notified e =>
    refine .inr (.of_idle rfl rfl rfl rfl hsame (fun hh => ?_) hupdates)
    exact (List.mem_append.mp hh).symm.imp_right fun hl => ⟨e, hl⟩
  | hushed h => exact .inr (.of_idle rfl rfl rfl rfl hsame (fun hh => .inl (h hh)) hupdates)
  | blocked => exact .inr (.of_idle rfl rfl rfl rfl hsame .inl hupdates)
  | released => exact .inr (.of_idle rfl rfl rfl rfl hsame .inl hupdates)
  | elsewhere h => exact .inr (.of_idle rfl rfl rfl rfl (h.same id) .inl (h.updates id))

theorem Move.log_grows {m m' : Stage} (h : Move m m') (hm : Sound m) : ∃ new, m'.log = new ++ m.log := by
  rcases h.aside_or hm 0 with h | h
  · rcases h.log hm with he | ⟨o, he, _⟩
    · exact ⟨[], he⟩
    · exact ⟨[o], he⟩
  · rcases h.log with he | ⟨o, he, _⟩
    · exact ⟨[], he⟩
    · exact ⟨[o], he⟩

theorem Move.log_subset {m m' : Stage} (h : Move m m') (hm : Sound m) : m.log ⊆ m'.log := by
  obtain ⟨new, hlog⟩ := h.log_grows hm
  exact hlog ▸ List.subset_append_right new m.log

theorem Move.debounced_subset {m m' : Stage} (h : Move m m') (hm : Sound m) :
    m.debounced ⊆ m'.debounced := by
  rcases h.aside_or hm 0 with h | h
  · exact h.debounced_subset
  · exact h.debounced

/-- Where a session is not marked no pass of it is in flight. -/
theorem Timeline.not_inFlight {m : Stage} {id : Nat} (hm : Timeline m) (hfree : m.world.marked id = false)
    (task : Nat) : ¬ m.InFlight id task := fun hf => by
  have hmarked := (hm.sound.guarded.marked id).mpr ⟨task, hf⟩
  rw [show m.loop.state.marked id = false from hfree] at hmarked
  cases hmarked

end DeclarationFetch
