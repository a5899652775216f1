import DeclarationFetch.Proofs.Session.Deeds

/-! # Disposal

What becomes of a session that is disposed while no pass of it is in flight.

* `LetGo id m m' recent`: the invariant, `m` being the stage in which the session was disposed and `recent`
  what has happened since. The session hears of nothing but a change that was on its way to it. If none was,
  no timer goes off, no task is made, and only tasks go on that waited to begin.
* `dispose_final`: so if none waited, and nobody asks for a pass, the session does nothing any more.
* `Prompt`: a task that waits is not called off. A session without a delay that is disposed right after an edit
  begins its pass all the same.
-/

namespace DeclarationFetch

open World (Tended)

/-- What happens is that a task which waited to begin goes on, or is dropped. -/
def Occurrence.Late (id : Nat) (m : Stage) (o : Occurrence) : Prop :=
  ∃ task, m.Waiting id task ∧
    (o = .dropped id task ∨ ∃ before after result, o = .ran id task before after result)

structure LetGo (id : Nat) (m m' : Stage) (recent : List Occurrence) : Prop where
  log : m'.log = recent ++ m.log
  there : id < m'.world.sessions.length
  disposed : (m'.session id).disposed = true
  hearing : id ∈ m'.hearing → id ∈ m.hearing
  heard : ∀ accepted, .heard id accepted ∈ recent → id ∈ m.hearing
  unarmed : id ∉ m.hearing → (m'.session id).pending = false
  waiting : id ∉ m.hearing → ∀ task, m'.Waiting id task → m.Waiting id task
  inFlight : id ∉ m.hearing → ∀ task, m'.InFlight id task → m.Waiting id task
  late : id ∉ m.hearing → ∀ o ∈ recent, o.session = id → o.Late id m
  updates : id ∉ m.hearing → (∀ task, ¬ m.Waiting id task) →
    (m'.world.updatesOf id).Sublist (m.world.updatesOf id)

variable {id : Nat} {m m' m'' : Stage} {recent : List Occurrence}

theorem Stage.updatesOf_disposed (m : Stage) (id : Nat) :
    (m.disposed id).world.updatesOf id = m.world.updatesOf id := by
  show (m.world.dispose id).updatesOf id = _
  rw [World.dispose_eq]
  split <;> rfl

namespace LetGo

theorem start (hid : id < m.world.sessions.length) (hnone : ∀ task, ¬ m.InFlight id task) :
    LetGo id m (m.disposed id) [] where
  log := rfl
  there := (World.sessions_length_dispose m.world id).symm ▸ hid
  disposed := by
    rw [m.session_disposed hid]
    rfl
  hearing h := h
  heard _ h := (List.not_mem_nil h).elim
  unarmed _ := by
    rw [m.session_disposed hid]
    rfl
  waiting _ _ h := ⟨h.owner, h.unbegun, h.running⟩
  inFlight _ task h := absurd ⟨h.owner, h.begun, h.running⟩ (hnone task)
  late _ _ h := (List.not_mem_nil h).elim
  updates _ _ := m.updatesOf_disposed id ▸ List.Sublist.refl _

theorem not_listens (h : LetGo id m m' recent) (hm : Sound m') (e : Nat) :
    id ∉ (m'.world.editor e).listeners := fun hl => by
  have hlive := (hm.listening e id hl).2.2
  rw [show (m'.world.session id).disposed = true from h.disposed] at hlive
  cases hlive

theorem aside (h : LetGo id m m' recent) (hm : Sound m') (ha : Aside id m' m'')
    (hlen : m'.world.sessions.length ≤ m''.world.sessions.length) {recent' : List Occurrence}
    (hlog : m''.log = recent' ++ m.log) (hnew : ∀ o ∈ recent', o ∈ recent ∨ o.session ≠ id) :
    LetGo id m m'' recent' where
  log := hlog
  there := Nat.lt_of_lt_of_le h.there hlen
  disposed := (congrArg Subscription.disposed ha.same.subscription).trans h.disposed
  hearing hh := by
    rcases ha.hearing hh with hh | ⟨e, hl⟩
    · exact h.hearing hh
    · exact absurd hl (h.not_listens hm e)
  heard accepted ho := by
    rcases hnew _ ho with ho | hne
    · exact h.heard accepted ho
    · exact absurd rfl hne
  unarmed hh := (congrArg Debouncer.pending ha.same.debouncer).trans (h.unarmed hh)
  waiting hh task hw := h.waiting hh task ((ha.waiting task).mp hw)
  inFlight hh task hf := h.inFlight hh task ((ha.inFlight task).mp hf)
  late hh o ho hs := by
    rcases hnew o ho with ho | hne
    · exact h.late hh o ho hs
    · exact absurd hs hne
  updates hh hnone := ha.updates.trans (h.updates hh hnone)

/-- Once a change that was on its way has come, all that is said of the session is that it is disposed. -/
theorem of_heard (h : LetGo id m m' recent) (hh : id ∈ m.hearing) (ht : Touched id m'.world m''.world)
    {recent' : List Occurrence} (hlog : m''.log = recent' ++ m.log) : LetGo id m m'' recent' where
  log := hlog
  there := Nat.lt_of_lt_of_le h.there ht.sessions
  disposed := ht.disposed h.there h.disposed
  hearing _ := hh
  heard _ _ := hh
  unarmed hno := absurd hh hno
  waiting hno := absurd hh hno
  inFlight hno := absurd hh hno
  late hno := absurd hh hno
  updates hno := absurd hh hno

theorem disposed_again (h : LetGo id m m' recent) : LetGo id m (m'.disposed id) recent where
  log := h.log
  there := (World.sessions_length_dispose m'.world id).symm ▸ h.there
  disposed := by
    rw [m'.session_disposed h.there]
    rfl
  hearing := h.hearing
  heard := h.heard
  unarmed _ := by
    rw [m'.session_disposed h.there]
    rfl
  waiting hh task hw := h.waiting hh task ⟨hw.owner, hw.unbegun, hw.running⟩
  inFlight hh task hf := h.inFlight hh task ⟨hf.owner, hf.begun, hf.running⟩
  late := h.late
  updates hh hnone := by
    rw [m'.updatesOf_disposed]
    exact h.updates hh hnone

/-- A task that goes on waited when the session was disposed. -/
theorem wentOn {task : Nat} {thrown : Option Fault} {c : Course World} (h : LetGo id m m' recent)
    (ho : m'.ledger.owners[task]? = some id) (hr : Loop.task? m'.loop task = some .running)
    (hc : Tended id m'.world c.state) :
    LetGo id m (m'.wentOn id task thrown c) (m'.occurrence id task thrown c :: recent) := by
  have hworld : (m'.wentOn id task thrown c).world = c.state := Loop.state_park c
  have hwaited : id ∉ m.hearing → m.Waiting id task := fun hh => by
    by_cases hb : task ∈ m'.ledger.begun
    · exact h.inFlight hh task ⟨ho, hb, hr⟩
    · exact h.waiting hh task ⟨ho, hb, hr⟩
  have hlate : m'.occurrence id task thrown c = .dropped id task ∨
      ∃ before after result, m'.occurrence id task thrown c = .ran id task before after result :=
    (m'.occurrence_cases id task thrown c).imp_right fun hran => ⟨_, _, _, hran⟩
  refine ⟨congrArg (_ :: ·) h.log, ?_, ?_, h.hearing, fun accepted hm => ?_, fun hh => ?_,
    fun hh task' hw => ?_, fun hh task' hf => ?_, fun hh o hm hs => ?_, fun hh hnone => ?_⟩
  · rw [hworld, hc.sessions]
    exact h.there
  · unfold Stage.session
    rw [hworld]
    exact hc.own.disposed h.disposed
  · rcases List.mem_cons.mp hm with he | hm
    · rcases hlate with hd | ⟨_, _, _, hran⟩
      · cases he.trans hd
      · cases he.trans hran
    · exact h.heard accepted hm
  · unfold Stage.session
    rw [hworld]
    have hunarmed : (m'.world.session id).pending = false := h.unarmed hh
    cases hp : (c.state.session id).pending with
    | false => rfl
    | true =>
      have harmed := hc.own.unarmed hp
      rw [hunarmed] at harmed
      cases harmed
  · exact h.waiting hh task' (Stage.waiting_wentOn.mp hw).2
  · rcases (Stage.inFlight_wentOn ho hr).mp hf with ⟨_, hf⟩ | ⟨rfl, _, _⟩
    · exact h.inFlight hh task' hf
    · exact hwaited hh
  · rcases List.mem_cons.mp hm with rfl | hm
    · exact ⟨task, hwaited hh, hlate⟩
    · exact h.late hh o hm hs
  · exact absurd (hwaited hh) (hnone task)

theorem deed (h : LetGo id m m' recent) (hm : Sound m') (hd : Deed id m' m'') {recent' : List Occurrence}
    (hlog : m''.log = recent' ++ m.log) (hasked : .asked id ∉ recent') : LetGo id m m'' recent' := by
  have htouched := hd.touched hm
  have hrecent : ∀ new, m''.log = new ++ m'.log → new ++ recent = recent' := fun new hnew => by
    rw [h.log, ← List.append_assoc] at hnew
    exact List.append_cancel_right (hnew.symm.trans hlog)
  cases hd with
  | created p he hid =>
    have hlt := h.there
    exact absurd (hid ▸ hlt) (Nat.lt_irrefl _)
  | asked hid => exact absurd (hrecent [.asked id] rfl ▸ List.mem_cons_self ..) hasked
  | heard hid hh => exact h.of_heard (h.hearing hh) htouched hlog
  | fired hid hp =>
    refine h.of_heard (Decidable.byContradiction fun hh => ?_) htouched hlog
    rw [h.unarmed hh] at hp
    cases hp
  | disposed => exact hrecent [] rfl ▸ h.disposed_again
  | @wentOn task resume ho hp thrown =>
    have htended := (hm.wentOn_cases ho hp thrown).tended
    exact hrecent [_] rfl ▸ h.wentOn ho (hm.running hp) htended

theorem move (h : LetGo id m m' recent) (hm : Sound m') (hv : Move m' m'') {recent' : List Occurrence}
    (hlog : m''.log = recent' ++ m.log) (hasked : .asked id ∉ recent') : LetGo id m m'' recent' := by
  rcases hv.aside_or hm id with hd | ha
  · exact h.deed hm hd hlog hasked
  · refine h.aside hm ha (hv.attached hm).1 hlog fun o ho => ?_
    rcases ha.log with hsame | ⟨o', hcons, hne⟩
    · obtain rfl : recent' = recent := List.append_cancel_right (hlog.symm.trans (hsame.trans h.log))
      exact .inl ho
    · obtain rfl : recent' = o' :: recent :=
        List.append_cancel_right (hlog.symm.trans (hcons.trans (congrArg (o' :: ·) h.log)))
      rcases List.mem_cons.mp ho with rfl | ho
      · exact .inr hne
      · exact .inl ho

end LetGo

theorem Later.letGo (hm : Sound m) (hid : id < m.world.sessions.length)
    (hnone : ∀ task, ¬ m.InFlight id task) (hl : Later (m.disposed id) m') :
    ∃ recent, m'.log = recent ++ m.log ∧ (.asked id ∉ recent → LetGo id m m' recent) := by
  have hdisposed : Sound (m.disposed id) := Deed.disposed.sound hm
  induction hl with
  | refl => exact ⟨[], rfl, fun _ => .start hid hnone⟩
  | @tail m₁ m₂ hlater hmove ih =>
    have hsound := Later.sound hlater hdisposed
    obtain ⟨recent, hlog, hgone⟩ := ih
    obtain ⟨new, hnew⟩ := hmove.log_grows hsound
    have hlog' : m₂.log = (new ++ recent) ++ m.log := by
      rw [hnew, hlog, List.append_assoc]
    refine ⟨new ++ recent, hlog', fun hasked => ?_⟩
    -- The log only grows, so what was not asked by the end was not asked before.
    have hold : .asked id ∉ recent := fun h => hasked (List.mem_append_right _ h)
    exact (hgone hold).move hsound hmove hlog' hasked

/-- A task that waits is not called off: whether the session is disposed or not, if no other one runs the
task may go on at any time, and then it asks the editor for its text. -/
theorem waiting_begins {task : Nat} (hm : Timeline m) (hw : m.Waiting id task)
    (hfree : m.world.marked id = false) (hs : (m.session id).Silent) :
    ∃ c, Move m (m.wentOn id task none c) ∧ m.world.reads id < c.state.reads id := by
  have hsound := hm.sound
  obtain ⟨entry, hp, rfl⟩ := List.mem_map.mp ((hsound.guarded.running task).mpr hw.running)
  refine ⟨entry.2 none m.world, .deed id (.wentOn hw.owner hp none), ?_⟩
  exact (hsound.waits _ _ id hp hw.owner hw.unbegun).reads _ _
    (hsound.seated (hsound.lt_of_owner hw.owner)) hfree hs

/-! A session without a delay hears of an edit, and is disposed before its task begins. -/

namespace Prompt

def created : Stage :=
  .opening { editors := [{ text := "" }] }
    { editor := 0, options := { debounceDuration := 0.0, handlers := { updates := true } }
      source := some .shelf }

/-- The first pass has ended, and the text of the editor has changed. -/
def told : Stage :=
  let m := created.onward 0 0 none
  let m : Stage := { m with loop := m.loop.setText 0 "require('a')" }
  { m with hearing := (m.world.editor 0).listeners ++ m.hearing }

def heard : Stage := told.heard 0

def now : Stage := (heard.disposed 0).onward 0 1 none

theorem ways : created.Goes 0 0 ∧ 0 < told.world.sessions.length ∧ 0 ∈ told.hearing ∧
    0 < heard.world.sessions.length ∧ 0 ∉ heard.hearing ∧ heard.world.marked 0 = false ∧
    (heard.disposed 0).Goes 0 1 ∧ (now.session 0).disposed = true ∧
    (now.world.updatesOf 0).map Update.type =
      "ResolveNewImports" :: (heard.world.updatesOf 0).map Update.type ∧
    heard.world.packages.requests.map Resolution.Request.package = [] ∧
    now.world.packages.requests.map Resolution.Request.package = ["a"] := by
  decide +kernel

theorem later_now : Later (heard.disposed 0) now := by
  obtain ⟨_, _, _, _, _, _, hgoes, _⟩ := ways
  exact .single (Stage.move_onward hgoes none)

end Prompt

end DeclarationFetch
