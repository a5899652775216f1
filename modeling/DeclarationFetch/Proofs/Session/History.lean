import DeclarationFetch.Proofs.Session.Guard
import Mathlib.Logic.Relation

/-! # Histories of sessions

All that can become of an event loop with sessions, in whatever order things happen.

* `Ledger`: for which session each task was made, and which tasks have begun.
* `History`: sessions are created and disposed, passes are asked for, editors change, timers go off, and
  any task goes on at any time, with the answer to its request or with a fault that it is thrown.
* `InFlight`: a task that has begun for a session and has not ended.
* `Guarded`: the invariant, with what each of these does to it. `History.settle` and what follows it: the
  loop as it runs, and the calls of the application, are among them.
* `history_guarded`: at most one pass of a session is in flight, and the session is marked just then.
-/

namespace DeclarationFetch

open World (Calm Apart)

/-! ## Moves -/

/-- The loop without what a task would do next. -/
def Loop.without {σ : Type} (l : Loop σ) (task : Nat) : Loop σ :=
  { l with
    ready := l.ready.filter fun entry => entry.1 ≠ task
    waiting := l.waiting.filter fun entry => entry.1 ≠ task }

/-- What is to be done next by the tasks that have not ended. -/
def Loop.pending {σ : Type} (l : Loop σ) : List (Nat × (Option Fault → σ → Course σ)) :=
  l.ready ++ l.waiting

theorem Loop.pending_without {σ : Type} (l : Loop σ) (task : Nat) :
    (l.without task).pending = l.pending.filter fun entry => entry.1 ≠ task :=
  (List.filter_append ..).symm

theorem Loop.mem_pending_without {σ : Type} {l : Loop σ} {task : Nat}
    {entry : Nat × (Option Fault → σ → Course σ)} :
    entry ∈ (l.without task).pending ↔ entry ∈ l.pending ∧ entry.1 ≠ task := by
  rw [pending_without, List.mem_filter, decide_eq_true_iff]

theorem Loop.distinct_without {σ : Type} {l : Loop σ} (h : (l.pending.map Prod.fst).Nodup) (task : Nat) :
    ((l.without task).pending.map Prod.fst).Nodup := by
  rw [pending_without]
  exact h.sublist (List.filter_sublist.map Prod.fst)

theorem Loop.not_mem_keys_without {σ : Type} (l : Loop σ) (task : Nat) :
    task ∉ (l.without task).pending.map Prod.fst := fun hk => by
  obtain ⟨entry, hentry, he⟩ := List.mem_map.mp hk
  exact (mem_pending_without.mp hentry).2 he

theorem Loop.pending_park_waiting {σ : Type} (l : Loop σ) (task : Nat) (gated : Bool) (w : σ)
    (resume : Option Fault → σ → Course σ) :
    ((l.without task).park task (.waiting gated w resume)).pending.Perm
      ((task, resume) :: (l.without task).pending) := by
  show ((l.without task).ready ++ ((l.without task).waiting ++ [(task, resume)])).Perm _
  rw [← List.append_assoc]
  exact List.perm_append_singleton ..

theorem Loop.distinct_park {σ : Type} {l : Loop σ} (hd : (l.pending.map Prod.fst).Nodup) (task : Nat)
    (c : Course σ) : (((l.without task).park task c).pending.map Prod.fst).Nodup := by
  have hothers := distinct_without hd task
  cases c with
  | ended result w => exact hothers
  | waiting gated w resume =>
    rw [((l.pending_park_waiting task gated w resume).map Prod.fst).nodup_iff]
    exact List.nodup_cons.mpr ⟨l.not_mem_keys_without task, hothers⟩

theorem Loop.pending_spawn {σ : Type} (l : Loop σ) (body : σ → Course σ) :
    (l.spawn body).2.pending.Perm ((l.tasks.length, unbegun body) :: l.pending) := by
  show ((l.ready ++ [(l.tasks.length, unbegun body)]) ++ l.waiting).Perm _
  rw [List.append_assoc]
  exact List.perm_middle

theorem Loop.running_spawn {σ : Type} {l : Loop σ} {body : σ → Course σ} {task : Nat} :
    (l.spawn body).2.task? task = some .running ↔
      task = l.tasks.length ∨ l.task? task = some .running := by
  show (l.tasks ++ [.running])[task]? = some .running ↔ _ ∨ l.tasks[task]? = some .running
  rcases Nat.lt_trichotomy task l.tasks.length with ht | rfl | ht
  · rw [List.getElem?_append_left ht]
    exact (or_iff_right (Nat.ne_of_lt ht)).symm
  · exact iff_of_true List.getElem?_concat_length (.inl rfl)
  · have hnone : (l.tasks ++ [TaskState.running])[task]? = none :=
      List.getElem?_eq_none (List.length_append ▸ ht)
    rw [hnone, List.getElem?_eq_none (Nat.le_of_lt ht)]
    exact (or_iff_right (Nat.ne_of_gt ht)).symm

/-- What is to be done next by a task, once a fault is thrown into one of them. -/
def Loop.struck {σ : Type} (task : Nat) (fault : Fault) (entry : Nat × (Option Fault → σ → Course σ)) :
    Nat × (Option Fault → σ → Course σ) :=
  if entry.1 = task then (entry.1, fun _ => entry.2 (some fault)) else entry

theorem Loop.struck_fst {σ : Type} {task : Nat} {fault : Fault}
    (entry : Nat × (Option Fault → σ → Course σ)) : (struck task fault entry).1 = entry.1 := by
  unfold struck
  split <;> rfl

theorem Loop.struck_other {σ : Type} {task : Nat} {fault : Fault}
    {entry : Nat × (Option Fault → σ → Course σ)} (h : entry.1 ≠ task) :
    struck task fault entry = entry := if_neg h

theorem Loop.pending_throw {σ : Type} (l : Loop σ) (task : Nat) (fault : Fault) :
    (l.throw task fault).pending.Perm (l.pending.map (struck task fault)) := by
  have hspared : (l.waiting.filter fun entry => entry.1 ≠ task).map (struck task fault) =
      l.waiting.filter fun entry => entry.1 ≠ task :=
    (List.map_congr_left fun _ hm => struck_other (of_decide_eq_true (List.mem_filter.mp hm).2)).trans
      (List.map_id _)
  have hsplit : (l.waiting.filter (fun entry => entry.1 = task) ++
      l.waiting.filter fun entry => entry.1 ≠ task).Perm l.waiting := by
    have hperm := List.filter_append_perm (fun entry => decide (entry.1 = task)) l.waiting
    simpa only [decide_not] using hperm
  show ((l.ready.map (struck task fault) ++ (l.waiting.filter _).map (struck task fault)) ++
    l.waiting.filter _).Perm ((l.ready ++ l.waiting).map _)
  rw [List.map_append, List.append_assoc, ← hspared, ← List.map_append]
  exact (hsplit.map _).append_left _

structure Ledger where
  /-- The session that each task was made for. -/
  owners : List Nat := []
  begun : List Nat := []

namespace Ledger

def enter (g : Ledger) (id : Nat) (l : SessionLoop) : Ledger :=
  { g with owners := g.owners ++ List.replicate (l.tasks.length - g.owners.length) id }

def begin_ (g : Ledger) (task : Nat) : Ledger := { g with begun := task :: g.begun }

end Ledger

/-- The loops with sessions that there can be. A task goes on whenever it likes, not only when the loop
runs it, and it may be thrown any fault. -/
inductive History : SessionLoop → Ledger → Prop
  | start {w : World} (hw : w.sessions = []) : History { state := w } {}
  | create {l : SessionLoop} {g : Ledger} (p : World.Plan) (h : History l g) :
      History (l.create p).2.2 (g.enter (l.create p).1 (l.create p).2.2)
  | resolve {l : SessionLoop} {g : Ledger} {id : Nat} (hid : id < l.state.sessions.length)
      (h : History l g) : History (l.resolve id).2 (g.enter id (l.resolve id).2)
  | changed {l : SessionLoop} {g : Ledger} {id : Nat} (hid : id < l.state.sessions.length)
      (h : History l g) : History (l.contentChanged id).2 (g.enter id (l.contentChanged id).2)
  | fired {l : SessionLoop} {g : Ledger} {id : Nat} (hid : id < l.state.sessions.length)
      (h : History l g) : History (l.fire id) (g.enter id (l.fire id))
  | disposed {l : SessionLoop} {g : Ledger} (id : Nat) (h : History l g) : History (l.dispose id) g
  | goesOn {l : SessionLoop} {g : Ledger} {task : Nat} {resume : Option Fault → World → Course World}
      (hm : (task, resume) ∈ l.pending) (thrown : Option Fault) (h : History l g) :
      History ((l.without task).park task (resume thrown l.state)) (g.begin_ task)
  | thrown {l : SessionLoop} {g : Ledger} (task : Nat) (fault : Fault) (h : History l g) :
      History (l.throw task fault) g
  | blocked {l : SessionLoop} {g : Ledger} (h : History l g) : History l.block g
  | released {l : SessionLoop} {g : Ledger} (h : History l g) : History l.release g
  /-- Anything else happens that does not touch the marks of sessions. -/
  | elsewhere {l : SessionLoop} {g : Ledger} {w : World} (hw : Calm l.state w) (h : History l g) :
      History { l with state := w } g

/-- The task has begun a pass of the session that has not ended. -/
structure InFlight (l : SessionLoop) (g : Ledger) (id task : Nat) : Prop where
  owner : g.owners[task]? = some id
  begun : task ∈ g.begun
  running : Loop.task? l task = some .running

/-! ## The invariant -/

/-- What holds of every loop that there can be. -/
structure Guarded (l : SessionLoop) (g : Ledger) : Prop where
  owners : g.owners.length = l.tasks.length
  known : ∀ id ∈ g.owners, id < l.state.sessions.length
  begun : ∀ task ∈ g.begun, task < l.tasks.length
  distinct : (l.pending.map Prod.fst).Nodup
  running : ∀ task, task ∈ l.pending.map Prod.fst ↔ Loop.task? l task = some .running
  unbegun : ∀ task resume id, (task, resume) ∈ l.pending → g.owners[task]? = some id →
    task ∉ g.begun → World.Unbegun id resume
  inFlight : ∀ task resume id, (task, resume) ∈ l.pending → g.owners[task]? = some id →
    task ∈ g.begun → World.Begun id resume
  marked : ∀ id, l.state.marked id = true ↔ ∃ task, InFlight l g id task
  alone : ∀ id task task', InFlight l g id task → InFlight l g id task' → task = task'

namespace Guarded

variable {l l' : SessionLoop} {g : Ledger} {id task : Nat}

theorem start {w : World} (hw : w.sessions = []) : Guarded { state := w } {} where
  owners := rfl
  known _ h := (List.not_mem_nil h).elim
  begun _ h := (List.not_mem_nil h).elim
  distinct := List.nodup_nil
  running _ := ⟨fun h => (List.not_mem_nil h).elim, fun h => nomatch h⟩
  unbegun _ _ _ h := (List.not_mem_nil h).elim
  inFlight _ _ _ h := (List.not_mem_nil h).elim
  marked id := by
    refine ⟨fun h => ?_, fun ⟨_, h⟩ => (List.not_mem_nil h.begun).elim⟩
    unfold World.marked World.session at h
    rw [hw] at h
    cases h
  alone _ _ _ h := (List.not_mem_nil h.begun).elim

theorem calm {w : World} (h : Guarded l g) (hw : Calm l.state w) : Guarded { l with state := w } g where
  owners := h.owners
  known id hm := Nat.lt_of_lt_of_le (h.known id hm) hw.sessions
  begun := h.begun
  distinct := h.distinct
  running := h.running
  unbegun := h.unbegun
  inFlight := h.inFlight
  marked id := by
    show w.marked id = true ↔ _
    rw [hw.marked]
    exact (h.marked id).trans
      ⟨fun ⟨task, h⟩ => ⟨task, h.owner, h.begun, h.running⟩,
        fun ⟨task, h⟩ => ⟨task, h.owner, h.begun, h.running⟩⟩
  alone id task task' ht ht' :=
    h.alone id task task' ⟨ht.owner, ht.begun, ht.running⟩ ⟨ht'.owner, ht'.begun, ht'.running⟩

/-! ## New tasks -/

theorem enter_eq (h : Guarded l g) (hl : l'.tasks = l.tasks) : g.enter id l' = g := by
  unfold Ledger.enter
  rw [hl, h.owners, Nat.sub_self, List.replicate_zero, List.append_nil]

theorem enter_spawn (h : Guarded l g) (id : Nat) (l' : SessionLoop) (body : World → Course World)
    (hl : l'.tasks = (Loop.spawn l body).2.tasks) :
    g.enter id l' = { g with owners := g.owners ++ [id] } := by
  have hlen : l'.tasks.length - g.owners.length = 1 := by
    rw [hl, h.owners]
    simp [Loop.spawn]
  unfold Ledger.enter
  rw [hlen, List.replicate_one]

theorem lt_of_owner (h : Guarded l g) (ho : g.owners[task]? = some id) : task < l.tasks.length :=
  h.owners ▸ (List.getElem?_eq_some_iff.mp ho).1

theorem owner_append (h : Guarded l g) (ht : task < l.tasks.length) :
    (g.owners ++ [id])[task]? = g.owners[task]? :=
  List.getElem?_append_left (h.owners.symm ▸ ht)

theorem lt_of_mem_keys (h : Guarded l g) (hk : task ∈ l.pending.map Prod.fst) : task < l.tasks.length :=
  (List.getElem?_eq_some_iff.mp ((h.running task).mp hk)).1

/-- A task that has not begun is in flight for nobody. -/
theorem inFlight_spawn (h : Guarded l g) (id id' task : Nat) (body : World → Course World) :
    InFlight (Loop.spawn l body).2 { g with owners := g.owners ++ [id] } id' task ↔
      InFlight l g id' task := by
  refine ⟨fun hf => ?_, fun hf => ?_⟩
  · have ht := h.begun task hf.begun
    refine ⟨h.owner_append ht ▸ hf.owner, hf.begun, ?_⟩
    exact (Loop.running_spawn.mp hf.running).resolve_left (Nat.ne_of_lt ht)
  · have ht := h.begun task hf.begun
    exact ⟨(h.owner_append ht).trans hf.owner, hf.begun, Loop.running_spawn.mpr (.inr hf.running)⟩

theorem spawned (h : Guarded l g) (hid : id < l.state.sessions.length) {body : World → Course World}
    (hb : World.Unbegun id (Loop.unbegun body)) :
    Guarded (Loop.spawn l body).2 { g with owners := g.owners ++ [id] } where
  owners := by simp [Loop.spawn, h.owners]
  known id' hm := (List.mem_append.mp hm).elim (h.known id') fun he => by
    rw [List.mem_singleton.mp he]
    exact hid
  begun task ht := by
    have hlt := h.begun task ht
    simp only [Loop.spawn, List.length_append, List.length_singleton]
    omega
  distinct := by
    rw [((Loop.pending_spawn l body).map Prod.fst).nodup_iff]
    exact List.nodup_cons.mpr ⟨fun hk => Nat.lt_irrefl _ (h.lt_of_mem_keys hk), h.distinct⟩
  running task := by
    rw [((Loop.pending_spawn l body).map Prod.fst).mem_iff, List.map_cons, List.mem_cons, h.running]
    exact Loop.running_spawn.symm
  unbegun task resume id' hm ho ht := by
    rcases List.mem_cons.mp ((Loop.pending_spawn l body).mem_iff.mp hm) with he | hm
    · cases he
      rw [← h.owners, List.getElem?_concat_length] at ho
      cases ho
      exact hb
    · have hlt := h.lt_of_mem_keys (List.mem_map_of_mem hm)
      exact h.unbegun task resume id' hm (h.owner_append hlt ▸ ho) ht
  inFlight task resume id' hm ho ht := by
    have hlt := h.begun task ht
    rcases List.mem_cons.mp ((Loop.pending_spawn l body).mem_iff.mp hm) with he | hm
    · cases he
      exact absurd hlt (Nat.lt_irrefl _)
    · exact h.inFlight task resume id' hm (h.owner_append hlt ▸ ho) ht
  marked id' := by
    simp only [h.inFlight_spawn]
    exact h.marked id'
  alone id' task task' ht ht' :=
    h.alone id' task task' ((h.inFlight_spawn ..).mp ht) ((h.inFlight_spawn ..).mp ht')

/-! ## Tasks that go on -/

section GoesOn

variable {resume : Option Fault → World → Course World} {w : World}

theorem lt_of_pending (h : Guarded l g) (hm : (task, resume) ∈ l.pending) : task < l.tasks.length :=
  h.lt_of_mem_keys (List.mem_map_of_mem hm)

theorem mem_keys_without (h : Guarded l g) (task task' : Nat) :
    task' ∈ (l.without task).pending.map Prod.fst ↔
      task' ≠ task ∧ Loop.task? l task' = some .running := by
  rw [← h.running]
  refine ⟨fun hm => ?_, fun ⟨hne, hm⟩ => ?_⟩
  · obtain ⟨entry, hentry, rfl⟩ := List.mem_map.mp hm
    obtain ⟨hentry, hne⟩ := Loop.mem_pending_without.mp hentry
    exact ⟨hne, List.mem_map_of_mem hentry⟩
  · obtain ⟨entry, hentry, rfl⟩ := List.mem_map.mp hm
    exact List.mem_map_of_mem (Loop.mem_pending_without.mpr ⟨hentry, hne⟩)

theorem unbegun_other (h : Guarded l g) {task' : Nat} (hm : (task', resume) ∈ (l.without task).pending)
    (ho : g.owners[task']? = some id) (ht : task' ∉ (g.begin_ task).begun) : World.Unbegun id resume :=
  h.unbegun task' resume id (Loop.mem_pending_without.mp hm).1 ho
    fun hb => ht (List.mem_cons_of_mem _ hb)

theorem inFlight_other (h : Guarded l g) {task' : Nat} (hm : (task', resume) ∈ (l.without task).pending)
    (ho : g.owners[task']? = some id) (ht : task' ∈ (g.begin_ task).begun) : World.Begun id resume := by
  obtain ⟨hm, hne⟩ := Loop.mem_pending_without.mp hm
  exact h.inFlight task' resume id hm ho ((List.mem_cons.mp ht).resolve_left hne)

theorem running_ended (hlt : task < l.tasks.length) (task' : Nat) (result : Except Fault Unit) :
    Loop.task? ((l.without task).park task (.ended result w)) task' = some .running ↔
      task' ≠ task ∧ Loop.task? l task' = some .running := by
  show (l.tasks.set task (.ofResult result))[task']? = some .running ↔ _
  rw [List.getElem?_set]
  by_cases he : task = task'
  · subst he
    rw [if_pos rfl, if_pos hlt]
    refine ⟨fun hr => ?_, fun hr => absurd rfl hr.1⟩
    cases result <;> cases hr
  · rw [if_neg he]
    exact (and_iff_right (Ne.symm he)).symm

theorem inFlight_ended (hlt : task < l.tasks.length) (id task' : Nat) (result : Except Fault Unit) :
    InFlight ((l.without task).park task (.ended result w)) (g.begin_ task) id task' ↔
      task' ≠ task ∧ InFlight l g id task' := by
  refine ⟨fun hf => ?_, fun ⟨hne, hf⟩ => ?_⟩
  · obtain ⟨hne, hr⟩ := (running_ended hlt task' result).mp hf.running
    exact ⟨hne, hf.owner, (List.mem_cons.mp hf.begun).resolve_left hne, hr⟩
  · exact ⟨hf.owner, List.mem_cons_of_mem _ hf.begun,
      (running_ended hlt task' result).mpr ⟨hne, hf.running⟩⟩

/-- A task ends, and the sessions of those that are still in flight are the ones that are marked. -/
theorem ended (h : Guarded l g) (hm : (task, resume) ∈ l.pending)
    (hw : l.state.sessions.length ≤ w.sessions.length)
    (hmarked : ∀ id, w.marked id = true ↔ ∃ task', task' ≠ task ∧ InFlight l g id task')
    (result : Except Fault Unit) :
    Guarded ((l.without task).park task (.ended result w)) (g.begin_ task) where
  owners := h.owners.trans List.length_set.symm
  known id hm := Nat.lt_of_lt_of_le (h.known id hm) hw
  begun task' ht := by
    show task' < (l.tasks.set task _).length
    rw [List.length_set]
    exact (List.mem_cons.mp ht).elim (fun he => he ▸ h.lt_of_pending hm) (h.begun task')
  distinct := Loop.distinct_park h.distinct task _
  running task' :=
    (h.mem_keys_without task task').trans (running_ended (h.lt_of_pending hm) task' result).symm
  unbegun task' resume id hm ho ht := h.unbegun_other hm ho ht
  inFlight task' resume id hm ho ht := h.inFlight_other hm ho ht
  marked id := (hmarked id).trans
    (exists_congr fun task' => (inFlight_ended (h.lt_of_pending hm) id task' result).symm)
  alone id t t' ht ht' :=
    have hlt := h.lt_of_pending hm
    h.alone id t t' ((inFlight_ended hlt id t result).mp ht).2 ((inFlight_ended hlt id t' result).mp ht').2

theorem inFlight_waiting (h : Guarded l g) (hm : (task, resume) ∈ l.pending)
    (ho : g.owners[task]? = some id) (gated : Bool) (resume' : Option Fault → World → Course World)
    (id' task' : Nat) :
    InFlight ((l.without task).park task (.waiting gated w resume')) (g.begin_ task) id' task' ↔
      (task' = task ∧ id' = id) ∨ task' ≠ task ∧ InFlight l g id' task' := by
  refine ⟨fun hf => ?_, fun hf => ?_⟩
  · by_cases he : task' = task
    · subst he
      exact .inl ⟨rfl, (Option.some.inj (ho.symm.trans hf.owner)).symm⟩
    · exact .inr ⟨he, hf.owner, (List.mem_cons.mp hf.begun).resolve_left he, hf.running⟩
  · rcases hf with ⟨rfl, rfl⟩ | ⟨_, hf⟩
    · exact ⟨ho, List.mem_cons_self .., (h.running task').mp (List.mem_map_of_mem hm)⟩
    · exact ⟨hf.owner, List.mem_cons_of_mem _ hf.begun, hf.running⟩

/-- A task waits, its session is marked, and no other task of it is in flight. -/
theorem waited (h : Guarded l g) (hm : (task, resume) ∈ l.pending) (ho : g.owners[task]? = some id)
    (hw : l.state.sessions.length ≤ w.sessions.length)
    (hmarked : ∀ id', w.marked id' = true ↔
      id' = id ∨ ∃ task', task' ≠ task ∧ InFlight l g id' task')
    (hnone : ∀ task', InFlight l g id task' → task' = task) (gated : Bool)
    {resume' : Option Fault → World → Course World} (hr : World.Begun id resume') :
    Guarded ((l.without task).park task (.waiting gated w resume')) (g.begin_ task) := by
  have hlt := h.lt_of_pending hm
  have hpending := Loop.pending_park_waiting l task gated w resume'
  have hflight := h.inFlight_waiting (w := w) hm ho gated resume'
  exact
    { owners := h.owners
      known := fun id hm => Nat.lt_of_lt_of_le (h.known id hm) hw
      begun := fun task' ht => (List.mem_cons.mp ht).elim (fun he => he ▸ hlt) (h.begun task')
      distinct := Loop.distinct_park h.distinct task _
      running := fun task' => by
        rw [(hpending.map Prod.fst).mem_iff, List.map_cons, List.mem_cons, h.mem_keys_without]
        refine ⟨fun hk => hk.elim (fun he => ?_) And.right, fun hk => ?_⟩
        · exact he ▸ (h.running task).mp (List.mem_map_of_mem hm)
        · by_cases he : task' = task
          · exact .inl he
          · exact .inr ⟨he, hk⟩
      unbegun := fun task' resume id' hm ho' ht => by
        rcases List.mem_cons.mp (hpending.mem_iff.mp hm) with he | hm
        · cases he
          exact absurd (List.mem_cons_self ..) ht
        · exact h.unbegun_other hm ho' ht
      inFlight := fun task' resume id' hm ho' ht => by
        rcases List.mem_cons.mp (hpending.mem_iff.mp hm) with he | hm
        · cases he
          cases ho.symm.trans ho'
          exact hr
        · exact h.inFlight_other hm ho' ht
      marked := fun id' => by
        refine (hmarked id').trans ⟨fun hk => ?_, fun ⟨task', hf⟩ => ?_⟩
        · rcases hk with rfl | ⟨task', hk⟩
          · exact ⟨task, (hflight _ _).mpr (.inl ⟨rfl, rfl⟩)⟩
          · exact ⟨task', (hflight _ _).mpr (.inr hk)⟩
        · exact ((hflight id' task').mp hf).imp And.right fun hf => ⟨task', hf⟩
      alone := fun id' t t' ht ht' => by
        rcases (hflight id' t).mp ht with ⟨he, rfl⟩ | ⟨_, hf⟩
        · rcases (hflight id' t').mp ht' with ⟨he', _⟩ | ⟨_, hf'⟩
          · exact he.trans he'.symm
          · exact he.trans (hnone t' hf').symm
        · rcases (hflight id' t').mp ht' with ⟨he', rfl⟩ | ⟨_, hf'⟩
          · exact (hnone t hf).trans he'.symm
          · exact h.alone id' t t' hf hf' }

/-- A task goes on, and no other task of its session is in flight. -/
theorem of_holds (h : Guarded l g) (hm : (task, resume) ∈ l.pending) (ho : g.owners[task]? = some id)
    (hnone : ∀ task', InFlight l g id task' → task' = task) {c : Course World}
    (hc : c.Holds id false l.state) : Guarded ((l.without task).park task c) (g.begin_ task) := by
  have hothers : ∀ {w : World}, Apart id l.state w → ∀ id', id' ≠ id →
      (w.marked id' = true ↔ ∃ task', task' ≠ task ∧ InFlight l g id' task') := fun hw id' hne => by
    rw [hw.marked id' hne, h.marked]
    refine exists_congr fun task' => (and_iff_right_of_imp fun hf he => hne ?_).symm
    subst he
    exact Option.some.inj (hf.owner.symm.trans ho)
  cases c with
  | ended result w =>
    refine h.ended hm hc.1.sessions (fun id' => ?_) result
    by_cases he : id' = id
    · subst he
      rw [hc.2]
      exact ⟨fun hf => (Bool.false_ne_true hf).elim, fun ⟨task', hne, hf⟩ => absurd (hnone task' hf) hne⟩
    · exact hothers hc.1 id' he
  | waiting gated w resume' =>
    refine h.waited hm ho hc.1.sessions (fun id' => ?_) hnone gated hc.2.2
    by_cases he : id' = id
    · subst he
      exact ⟨fun _ => .inl rfl, fun _ => hc.2.1⟩
    · exact (hothers hc.1 id' he).trans (or_iff_right he).symm

theorem goesOn (h : Guarded l g) (hm : (task, resume) ∈ l.pending) (thrown : Option Fault) :
    Guarded ((l.without task).park task (resume thrown l.state)) (g.begin_ task) := by
  have hlt : task < g.owners.length := h.owners.symm ▸ h.lt_of_pending hm
  have ho : g.owners[task]? = some g.owners[task] := List.getElem?_eq_getElem hlt
  have hid := h.known _ (List.getElem_mem hlt)
  by_cases hb : task ∈ g.begun
  · have hf : InFlight l g g.owners[task] task :=
      ⟨ho, hb, (h.running task).mp (List.mem_map_of_mem hm)⟩
    have hmarked := (h.marked _).mpr ⟨task, hf⟩
    exact h.of_holds hm ho (fun task' hf' => h.alone _ _ _ hf' hf)
      (h.inFlight task resume _ hm ho hb thrown l.state hid hmarked)
  · rcases h.unbegun task resume _ hm ho hb thrown l.state hid with ⟨result, he⟩ | ⟨hfree, hc⟩
    · rw [he]
      refine h.ended hm (Nat.le_refl _) (fun id' => ?_) result
      rw [h.marked]
      exact exists_congr fun task' =>
        (and_iff_right_of_imp fun hf (he : task' = task) => hb (he ▸ hf.begun)).symm
    · refine h.of_holds hm ho (fun task' hf => ?_) hc
      exact absurd ((h.marked _).mpr ⟨task', hf⟩) (hfree ▸ Bool.false_ne_true)

end GoesOn

/-- What is pending is put in another order, and may have been thrown something. -/
theorem rearranged (h : Guarded l g) (hs : l'.state = l.state) (ht : l'.tasks = l.tasks)
    (hkeys : (l'.pending.map Prod.fst).Perm (l.pending.map Prod.fst))
    (hpending : ∀ task resume', (task, resume') ∈ l'.pending → ∃ resume, (task, resume) ∈ l.pending ∧
      ∀ thrown, ∃ thrown', resume' thrown = resume thrown') : Guarded l' g := by
  have htask : ∀ task, Loop.task? l' task = Loop.task? l task := fun task => by
    unfold Loop.task?
    rw [ht]
  have hflight : ∀ id task, InFlight l' g id task ↔ InFlight l g id task := fun id task =>
    ⟨fun hf => ⟨hf.owner, hf.begun, htask task ▸ hf.running⟩,
      fun hf => ⟨hf.owner, hf.begun, (htask task).trans hf.running⟩⟩
  exact
    { owners := ht ▸ h.owners
      known := hs ▸ h.known
      begun := ht ▸ h.begun
      distinct := hkeys.nodup_iff.mpr h.distinct
      running := fun task => by rw [hkeys.mem_iff, h.running, htask]
      unbegun := fun task resume' id hm ho hb thrown w hid => by
        obtain ⟨resume, hm, hr⟩ := hpending task resume' hm
        obtain ⟨thrown', hr⟩ := hr thrown
        rw [hr]
        exact h.unbegun task resume id hm ho hb thrown' w hid
      inFlight := fun task resume' id hm ho hb thrown w hid hmarked => by
        obtain ⟨resume, hm, hr⟩ := hpending task resume' hm
        obtain ⟨thrown', hr⟩ := hr thrown
        rw [hr]
        exact h.inFlight task resume id hm ho hb thrown' w hid hmarked
      marked := fun id => by
        rw [hs, h.marked]
        exact exists_congr fun task => (hflight id task).symm
      alone := fun id t t' hf hf' => h.alone id t t' ((hflight id t).mp hf) ((hflight id t').mp hf') }

/-! ## What happens -/

theorem resolve (h : Guarded l g) (hid : id < l.state.sessions.length) :
    Guarded (l.resolve id).2 (g.enter id (l.resolve id).2) := by
  have hentered := h.enter_spawn id (l.resolve id).2 (World.resolveContents id) rfl
  rw [hentered]
  exact h.spawned hid (World.unbegun_resolveContents id)

theorem fire (h : Guarded l g) (hid : id < l.state.sessions.length) :
    Guarded (l.fire id) (g.enter id (l.fire id)) := by
  have hentered := h.enter_spawn id (l.fire id) (World.resolveContents id) rfl
  rw [hentered]
  exact (h.spawned hid (World.unbegun_resolveContents id)).calm (World.calm_mapSession fun _ => rfl)

theorem create (h : Guarded l g) (p : World.Plan) :
    Guarded (l.create p).2.2 (g.enter (l.create p).1 (l.create p).2.2) := by
  obtain ⟨hcalm, hnew⟩ := World.calm_attach p l.state
  have hattached := h.calm hcalm
  have hentered := hattached.enter_spawn (l.create p).1 (l.create p).2.2
    (World.firstPass (World.attach p l.state).1) rfl
  rw [hentered]
  exact hattached.spawned hnew (World.unbegun_firstPass _)

theorem contentChanged (h : Guarded l g) (hid : id < l.state.sessions.length) :
    Guarded (l.contentChanged id).2 (g.enter id (l.contentChanged id).2) := by
  unfold SessionLoop.contentChanged
  split
  · rw [h.enter_eq rfl]
    exact h
  · have htold := World.calm_tellUpdate l.state id .codeChanged
    generalize l.state.tellUpdate id .codeChanged = told at htold
    obtain ⟨result, w⟩ := told
    cases result with
    | error fault =>
      have hg := h.calm htold
      rw [hg.enter_eq rfl]
      exact hg
    | ok =>
      dsimp only
      have hturned : Calm w { w with turns := w.turns + 1 } := World.calm_of_sessions_eq rfl
      have hset : Calm { w with turns := w.turns + 1 } ({ w with turns := w.turns + 1 }.setSession id
          { w.session id with
            debouncer := ((w.session id).debouncer.trigger w.now).1
            turn := w.turns }) := World.calm_setSession rfl
      have harmed := (htold.trans hturned).trans hset
      split
      · exact (h.calm harmed).fire (Nat.lt_of_lt_of_le hid harmed.sessions)
      · have hg := h.calm (harmed.trans (World.calm_setTimer _ id))
        rw [hg.enter_eq rfl]
        exact hg

theorem throw (h : Guarded l g) (task : Nat) (fault : Fault) : Guarded (l.throw task fault) g := by
  have hpending := Loop.pending_throw l task fault
  have hkeys : Prod.fst ∘ Loop.struck (σ := World) task fault = Prod.fst := funext Loop.struck_fst
  refine h.rearranged rfl rfl ?_ fun task' resume' hm => ?_
  · have hmapped := hpending.map Prod.fst
    rwa [List.map_map, hkeys] at hmapped
  · obtain ⟨⟨key, resume⟩, he, heq⟩ := List.mem_map.mp (hpending.mem_iff.mp hm)
    unfold Loop.struck at heq
    split at heq
    · cases heq
      exact ⟨resume, he, fun _ => ⟨some fault, rfl⟩⟩
    · cases heq
      exact ⟨resume', he, fun thrown => ⟨thrown, rfl⟩⟩

theorem release (h : Guarded l g) : Guarded l.release g := by
  have hperm : (Loop.pending l.release).Perm l.pending := by
    show (l.ready ++ l.waiting ++ []).Perm _
    rw [List.append_nil]
    exact .refl _
  exact h.rearranged rfl rfl (hperm.map Prod.fst) fun task resume hm =>
    ⟨resume, hperm.mem_iff.mp hm, fun thrown => ⟨thrown, rfl⟩⟩

end Guarded

theorem History.guarded {l : SessionLoop} {g : Ledger} (h : History l g) : Guarded l g := by
  induction h with
  | start hw => exact .start hw
  | create p _ ih => exact ih.create p
  | resolve hid _ ih => exact ih.resolve hid
  | changed hid _ ih => exact ih.contentChanged hid
  | fired hid _ ih => exact ih.fire hid
  | disposed id _ ih => exact ih.calm (World.calm_dispose _ id)
  | goesOn hm thrown _ ih => exact ih.goesOn hm thrown
  | thrown task fault _ ih => exact ih.throw task fault
  | blocked _ ih =>
    exact ih.rearranged rfl rfl (.refl _) fun task resume hm => ⟨resume, hm, fun thrown => ⟨thrown, rfl⟩⟩
  | released _ ih => exact ih.release
  | elsewhere hw _ ih => exact ih.calm hw

/-! ## What the loop runs

A loop follows a task from stop to stop without putting it down in between, which comes to the same.
-/

namespace Loop

variable {σ : Type} {l : Loop σ} {task : Nat}

theorem without_park_waiting (gated : Bool) (w : σ) (resume : Option Fault → σ → Course σ) :
    ((l.without task).park task (.waiting gated w resume)).without task =
      { l.without task with state := w } := by
  simp [park, without]

theorem park_state (w : σ) (c : Course σ) : { l with state := w }.park task c = l.park task c := by
  cases c <;> rfl

theorem follow_state (w : σ) (c : Course σ) : { l with state := w }.follow task c = l.follow task c := by
  induction c with
  | ended result w' => exact park_state w _
  | waiting gated w' resume ih =>
    unfold follow
    rw [park_state, ih none w']

theorem follow_ready (todo : List (Nat × (Option Fault → σ → Course σ))) (c : Course σ) :
    { l with ready := todo }.follow task c = { l.follow task c with ready := todo } := by
  induction c with
  | ended result w' => rfl
  | waiting gated w' resume ih =>
    unfold follow
    split
    · exact ih none w'
    · rfl

/-- The first of the tasks that are ready is the only entry of its. -/
theorem without_head {entry : Nat × (Option Fault → σ → Course σ)}
    {todo : List (Nat × (Option Fault → σ → Course σ))}
    (h : (({ l with ready := entry :: todo } : Loop σ).pending.map Prod.fst).Nodup) :
    ({ l with ready := entry :: todo } : Loop σ).without entry.1 = { l with ready := todo } := by
  have hothers : ∀ other ∈ todo ++ l.waiting, other.1 ≠ entry.1 := fun other ho he =>
    (List.nodup_cons.mp h).1 (he ▸ List.mem_map_of_mem ho)
  have hready : (entry :: todo).filter (fun other => other.1 ≠ entry.1) = todo :=
    (List.filter_cons_of_neg (by simp)).trans
      (List.filter_eq_self.mpr fun other ho => decide_eq_true (hothers other (List.mem_append_left _ ho)))
  have hwaiting : l.waiting.filter (fun other => other.1 ≠ entry.1) = l.waiting :=
    List.filter_eq_self.mpr fun other ho => decide_eq_true (hothers other (List.mem_append_right _ ho))
  unfold without
  dsimp only
  rw [hready, hwaiting]

inductive GoesOn (l : Loop σ) : Loop σ → Prop
  | of_mem {task : Nat} {resume : Option Fault → σ → Course σ} (hm : (task, resume) ∈ l.pending) :
      GoesOn l ((l.without task).park task (resume none l.state))

abbrev Runs : Loop σ → Loop σ → Prop := Relation.ReflTransGen GoesOn

theorem Runs.distinct {l' : Loop σ} (h : Runs l l') (hd : (l.pending.map Prod.fst).Nodup) :
    (l'.pending.map Prod.fst).Nodup := by
  induction h with
  | refl => exact hd
  | tail _ hstep ih =>
    cases hstep with
    | of_mem hm => exact distinct_park ih _ _

theorem runs_follow {resume : Option Fault → σ → Course σ} {c : Course σ}
    (hm : (task, resume) ∈ l.pending) (hc : resume none l.state = c) :
    Runs l ((l.without task).follow task c) := by
  induction c generalizing l resume with
  | ended result w =>
    have hparked : GoesOn l ((l.without task).park task (.ended result w)) := hc ▸ .of_mem hm
    exact .single hparked
  | waiting gated w resume' ih =>
    have hparked : GoesOn l ((l.without task).park task (.waiting gated w resume')) := hc ▸ .of_mem hm
    unfold follow
    split
    · have hnext := ih none w (l := (l.without task).park task (.waiting gated w resume'))
        (List.mem_append_right _ (List.mem_append_right _ (List.mem_singleton_self _))) rfl
      rw [without_park_waiting, follow_state] at hnext
      exact .head hparked hnext
    · exact .single hparked

/-- Running all that is ready is letting one task after another go on. -/
theorem runs_settle (hd : (l.pending.map Prod.fst).Nodup) : Runs l l.settle := by
  have hrun : ∀ (todo : List (Nat × (Option Fault → σ → Course σ))) (l : Loop σ), l.ready = [] →
      (({ l with ready := todo } : Loop σ).pending.map Prod.fst).Nodup → Runs { l with ready := todo }
        (todo.foldl (fun l entry => l.follow entry.1 (entry.2 none l.state)) l) := by
    -- Each task that is ready goes on in what the ones before it have left.
    intro todo
    induction todo with
    | nil =>
      intro l hl _
      have hsame : ({ l with ready := [] } : Loop σ) = l := by rw [← hl]
      rw [hsame]
      exact .refl
    | cons entry todo ih =>
      intro l hl hd
      have hm : (entry.1, entry.2) ∈ ({ l with ready := entry :: todo } : Loop σ).pending :=
        List.mem_cons_self ..
      have hfirst := runs_follow hm rfl
      have hdistinct := hfirst.distinct hd
      rw [without_head hd, follow_ready] at hfirst hdistinct
      refine hfirst.trans (ih _ ?_ hdistinct)
      have hready : follow { l with ready := [] } entry.1 (entry.2 none l.state) =
          { follow l entry.1 (entry.2 none l.state) with ready := [] } := follow_ready [] _
      rw [← hl] at hready
      exact (congrArg ready hready).trans hl
  exact hrun l.ready { l with ready := [] } rfl hd

end Loop

namespace History

variable {l : SessionLoop} {g : Ledger}

theorem settle (h : History l g) : ∃ g', History (Loop.settle l) g' := by
  have hruns := Loop.runs_settle h.guarded.distinct
  generalize Loop.settle l = l' at hruns
  induction hruns with
  | refl => exact ⟨g, h⟩
  | tail _ hstep ih =>
    obtain ⟨g', h'⟩ := ih
    cases hstep with
    | of_mem hm => exact ⟨_, .goesOn hm none h'⟩

/-! The other calls of the application leave the marks alone. -/

theorem setVersions (id : Nat) (pins : Pins) (h : History l g) : History (l.setVersions id pins).2 g := by
  have hpinned : Calm l.state (l.state.mapSession id (·.setPins pins)) :=
    World.calm_mapSession fun _ => rfl
  have htold := hpinned.trans (World.calm_report _ id Handlers.versions (.versions pins))
  unfold SessionLoop.setVersions World.tellVersions
  generalize (l.state.mapSession id (·.setPins pins)).report id _ _ = told at htold
  obtain ⟨result, w⟩ := told
  cases result with
  | error fault => exact .elsewhere htold h
  | ok =>
    dsimp only
    split
    · exact .elsewhere (htold.trans (World.calm_mapSession fun _ => rfl)) h
    · exact .elsewhere htold h

theorem setOption (id : Nat) (name : String) (value : Value) (h : History l g) :
    History (l.setOption id name value).2 g := by
  unfold SessionLoop.setOption
  split
  · exact .elsewhere (World.calm_mapSession fun _ => rfl) h
  · exact h

theorem clearCache (id : Nat) (h : History l g) : History (l.clearCache id).2 g :=
  .elsewhere (World.calm_of_sessions_eq rfl) h

theorem setText (editor : Nat) (text : String) (h : History l g) : History (l.setText editor text) g :=
  .elsewhere (World.calm_of_sessions_eq rfl) h

theorem close (id : Nat) (h : History l g) : History (l.close id) g :=
  .elsewhere (World.calm_close _ id) h

end History

/-! ## At most one pass -/

/-- In whatever order sessions are created and disposed, passes are asked for, editors change, timers go
off, fetches end, and faults are thrown: no two passes of a session are in flight, the session is marked as
resolving just while one is, and where none is, a task that is to resolve begins a pass. -/
theorem history_guarded {l : SessionLoop} {g : Ledger} (h : History l g) (id : Nat) :
    (∀ task task', InFlight l g id task → InFlight l g id task' → task = task') ∧
    ((l.state.session id).isResolving = true ↔ ∃ task, InFlight l g id task) ∧
    ((¬ ∃ task, InFlight l g id task) →
      World.resolveContents id l.state = World.guarded id (World.passOver id) l.state) := by
  have hg := h.guarded
  refine ⟨hg.alone id, hg.marked id, fun hnone => ?_⟩
  have hfree : ¬ (l.state.session id).isResolving = true := fun hm => hnone ((hg.marked id).mp hm)
  exact if_neg hfree

/-! Somebody asks for a pass while the first one of a session waits for a file. It ends at once. Then the
first one is thrown a fault. -/

namespace Doubled

def onward (task : Nat) (thrown : Option Fault) (now : SessionLoop × Ledger) : SessionLoop × Ledger :=
  match now.1.pending.find? fun entry => entry.1 = task with
  | some (key, resume) => ((now.1.without key).park key (resume thrown now.1.state), now.2.begin_ key)
  | none => now

def asked (id : Nat) (now : SessionLoop × Ledger) : SessionLoop × Ledger :=
  ((now.1.resolve id).2, now.2.enter id (now.1.resolve id).2)

def created : SessionLoop × Ledger :=
  let l : SessionLoop := { state := { editors := [{ text := "require('a')" }] } }
  let made := l.create { editor := 0, source := some .shelf }
  (made.2.2, ({} : Ledger).enter made.1 made.2.2)

/-- Both tasks have gone on, the one that was made first being first. -/
def now : SessionLoop × Ledger := onward 1 none (asked 0 (onward 0 none created))

def later : SessionLoop × Ledger := onward 0 (some .cachedNoText) now

theorem history_onward (task : Nat) (thrown : Option Fault) {now : SessionLoop × Ledger}
    (h : History now.1 now.2) : History (onward task thrown now).1 (onward task thrown now).2 := by
  unfold onward
  split
  · next key resume hfound => exact .goesOn (List.mem_of_find?_eq_some hfound) thrown h
  · exact h

theorem history_now : History now.1 now.2 := by
  have hstart : History { state := { editors := [{ text := "require('a')" }] } } {} := .start rfl
  have hcreated : History created.1 created.2 :=
    .create { editor := 0, source := some .shelf } hstart
  have hasked : History (asked 0 (onward 0 none created)).1 (asked 0 (onward 0 none created)).2 :=
    .resolve (by decide +kernel) (history_onward 0 none hcreated)
  exact history_onward 1 none hasked

/-- The first pass is in flight, and afterwards none is. -/
theorem now_guarded :
    (now.1.state.session 0).isResolving = true ∧ (∃ task, InFlight now.1 now.2 0 task) ∧
    (later.1.state.session 0).isResolving = false ∧ (¬ ∃ task, InFlight later.1 later.2 0 task) ∧
    World.resolveContents 0 later.1.state = World.guarded 0 (World.passOver 0) later.1.state := by
  have hnow : (now.1.state.session 0).isResolving = true := by decide +kernel
  have hlater : (later.1.state.session 0).isResolving = false := by decide +kernel
  have hhistory : History later.1 later.2 := history_onward 0 _ history_now
  have hnone : ¬ ∃ task, InFlight later.1 later.2 0 task := fun h =>
    Bool.false_ne_true (hlater.symm.trans ((history_guarded hhistory 0).2.1.mpr h))
  exact ⟨hnow, (history_guarded history_now 0).2.1.mp hnow, hlater, hnone,
    (history_guarded hhistory 0).2.2 hnone⟩

end Doubled

end DeclarationFetch
