import DeclarationFetch.Proofs.Session.Deeds

/-! # Edits

Every change that a session takes up is read.

* `Stage.AllRead id`: each change that the session took up was followed by a pass that asked the editor for
  its text.
* `Awaited id`: the invariant. While a pass runs all is read, since the pass has asked for the text after the
  last change that was taken up; else the timer is armed, a debounced task waits to begin, or all is read.
* `edit_read`: so in a stage where nothing is awaited all is read.
-/

namespace DeclarationFetch

/-- A task of the session asks the editor for its text. -/
def Occurrence.Reads (id : Nat) (o : Occurrence) : Prop :=
  ∃ task before after result, o = .ran id task before after result ∧ before.reads id < after.reads id

def Stage.AllRead (m : Stage) (id : Nat) : Prop :=
  Followed (· = .heard id true) (Occurrence.Reads id) m.log

/-- No debounced task of the session was cancelled before it began. -/
def Stage.Undropped (m : Stage) (id : Nat) : Prop := ∀ task ∈ m.debounced, .dropped id task ∉ m.log

structure Awaited (id : Nat) (m : Stage) : Prop where
  marked : m.world.marked id = true → m.AllRead id
  free : (m.session id).disposed = true ∨ (m.session id).pending = true ∨
    (∃ task ∈ m.debounced, m.Waiting id task) ∨ m.AllRead id

variable {id : Nat} {m m' : Stage}

theorem Sound.allRead_of_absent (hm : Sound m) (hid : ¬ id < m.world.sessions.length) : m.AllRead id :=
  .of_none fun o ho he => hid (by
    have hknown := hm.known o ho
    rw [he] at hknown
    exact hknown)

theorem Stage.occurrence_ne_heard {task : Nat} {thrown : Option Fault} {c : Course World} {accepted : Bool} :
    m.occurrence id task thrown c ≠ .heard id accepted := by
  rcases m.occurrence_cases id task thrown c with he | he <;>
  · rw [he]
    exact nofun

theorem Stage.newTasks_eq {l : SessionLoop} (ht : l.tasks = m.loop.tasks ++ [.running]) :
    m.newTasks l = [m.loop.tasks.length] := by
  have hlen : l.tasks.length - m.loop.tasks.length = 1 := by
    rw [ht, List.length_append, List.length_singleton]
    exact Nat.add_sub_cancel_left ..
  unfold Stage.newTasks
  rw [hlen, List.range'_one]

theorem SessionLoop.isResolving_fire (l : SessionLoop) (id : Nat) :
    ((l.fire id).state.session id).isResolving = (l.state.session id).isResolving := by
  show ((l.state.setSession id _).session id).isResolving = _
  rw [World.session_setSession]
  split <;> rfl

namespace Awaited

theorem of_allRead (h : m.AllRead id) : Awaited id m := ⟨fun _ => h, .inr (.inr (.inr h))⟩

/-- Nothing that is awaited goes away, and no pass begins. -/
theorem keep (hi : Awaited id m) (hall : m.AllRead id → m'.AllRead id)
    (hmarked : m'.world.marked id = m.world.marked id)
    (hdisposed : (m'.session id).disposed = (m.session id).disposed)
    (hpending : (m'.session id).pending = (m.session id).pending)
    (hwaiting : ∀ task ∈ m.debounced, m.Waiting id task → task ∈ m'.debounced ∧ m'.Waiting id task) :
    Awaited id m' where
  marked h := hall (hi.marked (hmarked ▸ h))
  free := by
    rcases hi.free with h | h | ⟨task, hd, hw⟩ | h
    · exact .inl (hdisposed.trans h)
    · exact .inr (.inl (hpending.trans h))
    · exact .inr (.inr (.inl ⟨task, hwaiting task hd hw⟩))
    · exact .inr (.inr (.inr (hall h)))

theorem aside (h : Aside id m m') (hi : Awaited id m) : Awaited id m' := by
  refine hi.keep (fun hall => ?_) h.same.isResolving (congrArg Subscription.disposed h.same.subscription)
    (congrArg Debouncer.pending h.same.debouncer) fun task hd hw => ⟨h.debounced hd, (h.waiting task).mpr hw⟩
  unfold Stage.AllRead
  rcases h.log with hlog | ⟨o, hlog, ho⟩
  · rw [hlog]
    exact hall
  · rw [hlog]
    refine .cons (fun he => ho ?_) hall
    rw [he]
    rfl

theorem heard (hm : Sound m) (hs : (m.session id).Silent) (hid : id < m.world.sessions.length)
    (hi : Awaited id m) : Awaited id (m.heard id) := by
  have hhears := SessionLoop.hears (l := m.loop) hid
  unfold Stage.heard
  generalize (m.loop.contentChanged id).2 = l' at hhears
  cases hhears with
  | passed hmarked =>
    -- The change is passed over, and the pass that runs has read all that was taken up before it.
    refine of_allRead (.cons (fun he => ?_) (hi.marked hmarked))
    have haccepted : (!m.world.marked id) = true := by injection he
    rw [show m.world.marked id = true from hmarked] at haccepted
    cases haccepted
  | raised hmarked hf =>
    have hok : (m.loop.state.tellUpdate id .codeChanged).1 = .ok () := World.tellUpdate_silent _ _ _ hs
    rw [hok] at hf
    cases hf
  | armed hmarked ht hsame howes hp =>
    refine ⟨fun h => ?_, .inr (.inl (hp hid))⟩
    have hfree := hsame.symm.trans h
    rw [show (m.loop.state.session id).isResolving = false from hmarked] at hfree
    cases hfree
  | @atOnce w hmarked ht hsame howes =>
    have hspawned := spawned_enter hm.guarded id (SessionLoop.fire { m.loop with state := w } id)
      (World.resolveContents id) rfl rfl
    refine ⟨fun h => ?_, .inr (.inr (.inl ⟨m.loop.tasks.length, List.mem_append_left _ ?_, ?_⟩))⟩
    · have hfree := hsame.symm.trans ((SessionLoop.isResolving_fire _ id).symm.trans h)
      rw [show (m.loop.state.session id).isResolving = false from hmarked] at hfree
      cases hfree
    · rw [Stage.newTasks_eq rfl]
      exact List.mem_singleton_self _
    · have hwaiting := (hspawned.waiting hm.guarded).mpr (.inr ⟨rfl, rfl⟩)
      exact ⟨hwaiting.owner, hwaiting.unbegun, hwaiting.running⟩

theorem fired (hm : Sound m) (hi : Awaited id m) : Awaited id (m.fired id) := by
  refine ⟨fun h => hi.marked ?_, .inr (.inr (.inl ⟨m.loop.tasks.length, List.mem_append_left _ ?_, ?_⟩))⟩
  · exact (SessionLoop.isResolving_fire m.loop id).symm.trans h
  · rw [Stage.newTasks_eq rfl]
    exact List.mem_singleton_self _
  · exact (hm.spawned_fired.waiting hm.guarded).mpr (.inr ⟨rfl, rfl⟩)

theorem asked (hm : Sound m) (hi : Awaited id m) : Awaited id (m.asked id) := by
  refine hi.keep (.cons fun he => ?_) rfl rfl rfl fun task hd hw =>
    ⟨hd, (hm.spawned_asked.waiting hm.guarded).mpr (.inl hw)⟩
  cases he

theorem disposed (hm : Sound m) (hi : Awaited id m) : Awaited id (m.disposed id) := by
  by_cases hid : id < m.world.sessions.length
  · have hsession := m.session_disposed hid
    refine ⟨fun h => hi.marked ?_, .inl ?_⟩
    · exact (congrArg Session.isResolving hsession).symm.trans h
    · rw [hsession]
      rfl
  · exact of_allRead (hm.allRead_of_absent hid)

theorem wentOn {task : Nat} {thrown : Option Fault} {c : Course World}
    (hm : Sound m) (hs : (m.session id).Silent) (ho : m.ledger.owners[task]? = some id)
    (hr : Loop.task? m.loop task = some .running) (h : WentOn m id task thrown c)
    (hd : (m.wentOn id task thrown c).Undropped id) (hi : Awaited id m) :
    Awaited id (m.wentOn id task thrown c) := by
  have hkept : m.AllRead id → (m.wentOn id task thrown c).AllRead id :=
    .cons Stage.occurrence_ne_heard
  cases h with
  | dropped fault hu =>
    have hlog : (m.wentOn id task (some fault) (.ended (.error fault) m.world)).log =
        .dropped id task :: m.log := congrArg (· :: m.log) (m.occurrence_dropped id fault _ hu)
    refine hi.keep hkept rfl rfl rfl fun task' hdebounced hw => ⟨hdebounced, ?_⟩
    refine Stage.waiting_wentOn.mpr ⟨?_, hw⟩
    rintro rfl
    refine hd task' hdebounced ?_
    rw [hlog]
    exact List.mem_cons_self ..
  | passed hu hmarked => exact of_allRead (hkept (hi.marked hmarked))
  | began hu hmarked ht hreads =>
    exact of_allRead (.inl ⟨task, m.world, c.state, c.result?, m.occurrence_ran id c (.inl rfl), hreads hs⟩)
  | resumed thrown hb ht =>
    -- A task that had begun is a pass that runs.
    have hmarked := (hm.guarded.marked id).mpr ⟨task, ho, hb, hr⟩
    exact of_allRead (hkept (hi.marked hmarked))

theorem deed (h : Deed id m m') (hm : Sound m) (hs : (m.session id).Silent)
    (hd : m'.Undropped id) (hi : Awaited id m) : Awaited id m' := by
  cases h with
  | created p he hid =>
    exact of_allRead (hm.allRead_of_absent fun hlt => Nat.lt_irrefl _ (hid ▸ hlt))
  | asked hid => exact hi.asked hm
  | heard hid hh => exact hi.heard hm hs hid
  | fired hid hp => exact hi.fired hm
  | disposed => exact hi.disposed hm
  | wentOn ho hp thrown =>
    exact hi.wentOn hm hs ho (hm.running hp) (hm.wentOn_cases ho hp thrown) hd

end Awaited

/-- Callbacks that are silent have been so from the beginning. -/
theorem Move.silent (h : Move m m') (hm : Sound m) (hs : (m'.session id).Silent) :
    (m.session id).Silent := by
  by_cases hid : id < m.world.sessions.length
  · unfold Session.Silent
    rw [← ((h.attached hm).2 id hid).callbacks]
    exact hs
  · have habsent : m.session id = default := by
      show m.world.sessions.getD id default = _
      rw [List.getD_eq_getElem?_getD, List.getElem?_eq_none (Nat.le_of_not_lt hid)]
      rfl
    rw [habsent]
    exact fun _ _ => rfl

theorem Move.undropped (h : Move m m') (hm : Sound m) (hd : m'.Undropped id) : m.Undropped id :=
  fun task ht hdropped => hd task (h.debounced_subset hm ht) (h.log_subset hm hdropped)

theorem Later.awaited (h : Later m m') (hm : Sound m) (hi : Awaited id m) (hs : (m'.session id).Silent)
    (hd : m'.Undropped id) : Awaited id m' := by
  induction h with
  | refl => exact hi
  | tail hlater hmove ih =>
    have hsound := Later.sound hlater hm
    -- Silent and undropped at the end means so before the last move.
    have hbefore := ih (hmove.silent hsound hs) (hmove.undropped hsound hd)
    rcases hmove.aside_or hsound id with h | h
    · exact hbefore.deed h hsound (hmove.silent hsound hs) hd
    · exact hbefore.aside h

theorem Timeline.awaited (h : Timeline m) (hs : (m.session id).Silent) (hd : m.Undropped id) :
    Awaited id m := by
  obtain ⟨w, hw, hlater⟩ := h
  exact hlater.awaited hw.sound (.of_allRead trivial) hs hd

/-- In whatever order editors change, timers go off, passes are asked for, and fetches end: where a session
whose callbacks are silent is not disposed, its timer is not armed, and no debounced task of it waits to
begin, every change that it took up was followed by a pass that asked the editor for its text. -/
theorem edit_read (hm : Timeline m) (hs : (m.session id).Silent) (hd : m.Undropped id)
    (hlive : (m.session id).disposed = false) (hunarmed : (m.session id).pending = false)
    (hnone : ∀ task ∈ m.debounced, ¬ m.Waiting id task) {later earlier : List Occurrence}
    (hl : m.log = later ++ .heard id true :: earlier) : ∃ task before after result,
      .ran id task before after result ∈ later ∧ before.reads id < after.reads id := by
  have hall : m.AllRead id := by
    -- nothing is armed and nothing waits, so all that was heard has been read
    rcases (hm.awaited hs hd).free with h | h | ⟨task, ht, hw⟩ | h
    · rw [hlive] at h
      cases h
    · rw [hunarmed] at h
      cases h
    · exact absurd hw (hnone task ht)
    · exact h
  unfold Stage.AllRead at hall
  rw [hl] at hall
  obtain ⟨_, ho, task, before, after, result, rfl, hreads⟩ := hall.exists_mem rfl
  refine ⟨task, before, after, result, ?_, hreads⟩
  rcases List.mem_append.mp ho with ho | ho
  · exact ho
  · rw [List.mem_singleton] at ho
    cases ho

/-! The editor of a session changes, the timer goes off, and the debounced pass asks for the text. -/

namespace Typed

def created : Stage := .opening { editors := [{ text := "" }] } { editor := 0, source := some .shelf }

def told : Stage :=
  let m := created.onward 0 0 none
  { m with hearing := (m.world.editor 0).listeners ++ m.hearing }

def armed : Stage := told.heard 0

def fired : Stage := armed.fired 0

def now : Stage := fired.onward 0 1 none

/-- What the stages on the way are like. -/
theorem ways :
    created.Goes 0 0 ∧ 0 < told.world.sessions.length ∧ 0 ∈ told.hearing ∧ told.world.marked 0 = false ∧
    (armed.session 0).pending = true ∧ 0 < armed.world.sessions.length ∧
    fired.Goes 0 1 ∧ (now.session 0).disposed = false ∧ (now.session 0).pending = false ∧ 1 ∈ now.ledger.begun ∧
    now.debounced = [1] := by
  decide +kernel

theorem timeline_created : Timeline created := .opening (.of_editor rfl rfl rfl) Nat.one_pos

theorem later_now : Later created now := by
  obtain ⟨hfirst, hid, hhearing, _, hpending, hid', hnext, _⟩ := ways
  have htold : Later created told := .tail (.single (Stage.move_onward hfirst none)) (.notified 0)
  have hfired : Later created fired :=
    .tail (.tail htold (.deed 0 (.heard hid hhearing))) (.deed 0 (.fired hid' hpending))
  exact .tail hfired (Stage.move_onward hnext none)

theorem now_read : (now.session 0).disposed = false ∧ (now.session 0).pending = false ∧
    ∃ later earlier, now.log = later ++ .heard 0 true :: earlier ∧ ∃ task before after result,
      .ran 0 task before after result ∈ later ∧ before.reads 0 < after.reads 0 := by
  obtain ⟨hfirst, _, _, hfree, _, _, hnext, hlive, hunarmed, hbegun, hdebounced⟩ := ways
  obtain ⟨first, hlogfirst⟩ := Stage.log_onward hfirst
  obtain ⟨second, hlog⟩ := Stage.log_onward hnext
  have hheard : fired.log = .heard 0 true :: (created.onward 0 0 none).log := by
    show .heard 0 (!told.world.marked 0) :: told.log = _
    rw [hfree]
    rfl
  rw [hheard, hlogfirst] at hlog
  have hsplit : now.log = [.ran 0 1 fired.world now.world second] ++ .heard 0 true :: _ := hlog
  have hundropped : now.Undropped 0 := fun task _ hm => by
    rw [show now.log = _ from hlog] at hm
    simp [created, Stage.opening, Stage.created, Stage.enter] at hm
  have hnone : ∀ task ∈ now.debounced, ¬ now.Waiting 0 task := fun task ht hw => by
    rw [hdebounced, List.mem_singleton] at ht
    exact hw.unbegun (ht ▸ hbegun)
  have hsilent : (now.session 0).Silent := fun r w => by
    rw [((Later.attached later_now timeline_created.sound).2 0 Nat.one_pos).callbacks]
    rfl
  exact ⟨hlive, hunarmed, _, _, hsplit,
    edit_read (timeline_created.later later_now) hsilent hundropped hlive hunarmed hnone hsplit⟩

end Typed

end DeclarationFetch
