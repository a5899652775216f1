import DeclarationFetch.Debouncer
import DeclarationFetch.Proofs.Debouncer.Clock

/-! # Which triggers start the callback

A debouncer to which everything may happen in any order: triggers, cancels, other delays, the passing of
time, and runs of the loop. Which triggers start the callback, and when, is told from what has happened
alone; the callback may fail, end or wait at a gate that is open or not.

* `Deed`, `after`: what happens, and what comes of it.
* `counted`: any callback, with a count of how often it was started.
* `Prompt`, `Armed`: the triggers without a delay since the last run, and the one that the timer is armed
  by. `Due` are those that start the callback if the loop runs now.
* `Starts`: how often the tasks that are ready start the callback. A run starts it so often.
* `triggers_coalesced`: each trigger starts it at most once, when it is due and the loop runs.
-/

namespace DeclarationFetch

/-! ## Counting -/

variable {σ τ : Type}

/-- A course next to which something stands that it never touches. -/
def Course.beside : Course σ → τ → Course (σ × τ)
  | .ended result state, t => .ended result (state, t)
  | .waiting gated state resume, t =>
      .waiting gated (state, t) fun thrown s => (resume thrown s.1).beside s.2

namespace Debounced

def counted (callback : σ → Course σ) (s : σ × Nat) : Course (σ × Nat) := (callback s.1).beside (s.2 + 1)

inductive Deed where
  | trigger
  | cancel
  | setDelay (delay : Double)
  | pass (seconds : Double)
  | run
  | block
  | unblock
  deriving DecidableEq

def perform (d : Debounced σ) : Deed → Debounced σ
  | .trigger => d.trigger
  | .cancel => d.cancel
  | .setDelay delay => { d with debouncer := { d.debouncer with delay } }
  | .pass seconds => { d with now := Instant.later d.now seconds }
  | .run => d.settle
  | .block => d.block
  | .unblock => { d with loop := d.loop.release }

def after (d : Debounced σ) (deeds : List Deed) : Debounced σ := deeds.foldl perform d

theorem advance_eq (d : Debounced σ) (seconds : Double) :
    d.advance seconds = d.after [.run, .pass seconds, .run] := rfl

theorem release_eq (d : Debounced σ) : d.release = d.after [.unblock, .run] := rfl

def idle (callback : σ → Course σ) (state : σ) (gateOpen : Bool) (delay : Double) (now : Instant) :
    Debounced (σ × Nat) :=
  { debouncer := { delay }, loop := { state := (state, 0), gateOpen }, callback := counted callback, now }

def started (d : Debounced (σ × Nat)) : Nat := d.loop.state.2

/-! ## What has happened -/

structure Origin where
  delay : Double
  now : Instant

namespace Origin

def delayAfter (o : Origin) (deeds : List Deed) : Double :=
  deeds.foldl (fun delay deed => match deed with | .setDelay other => other | _ => delay) o.delay

def clockAfter (o : Origin) (deeds : List Deed) : Instant :=
  deeds.foldl (fun now deed => match deed with | .pass seconds => now.later seconds | _ => now) o.now

end Origin

/-- The trigger at a place without a delay, since which the loop has not run. -/
structure Prompt (o : Origin) (deeds : List Deed) (i : Nat) : Prop where
  trigger : deeds[i]? = some .trigger
  delay : (o.delayAfter (deeds.take i)).le 0.0 = true
  unstarted : .run ∉ deeds.drop (i + 1)

/-- The trigger at a place with a delay that ends at an instant, after which there was neither a trigger nor
a cancel nor a run at which that instant was reached. -/
structure Armed (o : Origin) (deeds : List Deed) (i : Nat) (due : Instant) : Prop where
  trigger : deeds[i]? = some .trigger
  delay : (o.delayAfter (deeds.take i)).le 0.0 = false
  due_eq : due = (o.clockAfter (deeds.take i)).later (o.delayAfter (deeds.take i))
  last : .trigger ∉ deeds.drop (i + 1)
  kept : .cancel ∉ deeds.drop (i + 1)
  early : ∀ j, i < j → deeds[j]? = some .run → due.reached (o.clockAfter (deeds.take j)) = false

/-- The trigger at a place starts the callback if the loop runs now. -/
def Due (o : Origin) (deeds : List Deed) (i : Nat) : Prop :=
  Prompt o deeds i ∨ ∃ due, Armed o deeds i due ∧ due.reached (o.clockAfter deeds) = true

variable {o : Origin} {deeds : List Deed} {deed : Deed} {i j : Nat} {due : Instant}

/-! ## One more deed -/

theorem getElem?_concat_eq_some {there : Deed} (h : (deeds ++ [deed])[i]? = some there) :
    (i < deeds.length ∧ deeds[i]? = some there) ∨ (i = deeds.length ∧ deed = there) := by
  rcases Nat.lt_trichotomy i deeds.length with hlt | rfl | hgt
  · exact .inl ⟨hlt, List.getElem?_append_left hlt ▸ h⟩
  · rw [List.getElem?_concat_length] at h
    exact .inr ⟨rfl, Option.some_inj.mp h⟩
  · rw [List.getElem?_eq_none (by simp; omega)] at h
    cases h

theorem lt_of_getElem? (h : deeds[i]? = some deed) : i < deeds.length :=
  (List.getElem?_eq_some_iff.mp h).1

theorem take_concat (deed : Deed) (h : i ≤ deeds.length) : (deeds ++ [deed]).take i = deeds.take i :=
  List.take_append_of_le_length h

theorem not_mem_drop_concat {there : Deed} (h : i < deeds.length) :
    there ∉ (deeds ++ [deed]).drop (i + 1) ↔ there ∉ deeds.drop (i + 1) ∧ deed ≠ there := by
  rw [List.drop_append_of_le_length h, List.mem_append, List.mem_singleton, not_or, ne_comm]

theorem not_mem_drop_concat_length (there : Deed) :
    there ∉ (deeds ++ [deed]).drop (deeds.length + 1) := by
  rw [List.drop_eq_nil_of_le (by simp)]
  exact List.not_mem_nil

theorem forall_run_concat {p : List Deed → Prop} (h : i < deeds.length) :
    (∀ j, i < j → (deeds ++ [deed])[j]? = some .run → p ((deeds ++ [deed]).take j)) ↔
      (∀ j, i < j → deeds[j]? = some .run → p (deeds.take j)) ∧ (deed = .run → p deeds) := by
  refine ⟨fun hall => ⟨fun j hij hrun => ?_, ?_⟩, fun ⟨hall, hlast⟩ j hij hrun => ?_⟩
  · have hj := lt_of_getElem? hrun
    rw [← take_concat deed (Nat.le_of_lt hj)]
    exact hall j hij (List.getElem?_append_left hj ▸ hrun)
  · rintro rfl
    have hnow := hall deeds.length h List.getElem?_concat_length
    rwa [List.take_left] at hnow
  · obtain ⟨hj, hthere⟩ | ⟨rfl, hthere⟩ := getElem?_concat_eq_some hrun
    · rw [take_concat _ (Nat.le_of_lt hj)]
      exact hall j hij hthere
    · rw [List.take_left]
      exact hlast hthere

theorem prompt_concat : Prompt o (deeds ++ [deed]) i ↔ (Prompt o deeds i ∧ deed ≠ .run) ∨
    (i = deeds.length ∧ deed = .trigger ∧ (o.delayAfter deeds).le 0.0 = true) := by
  constructor
  · intro h
    have hdelay := h.delay
    obtain ⟨hlt, htrigger⟩ | ⟨rfl, htrigger⟩ := getElem?_concat_eq_some h.trigger
    · rw [take_concat deed (Nat.le_of_lt hlt)] at hdelay
      obtain ⟨hunstarted, hrun⟩ := (not_mem_drop_concat hlt).mp h.unstarted
      exact .inl ⟨⟨htrigger, hdelay, hunstarted⟩, hrun⟩
    · rw [List.take_left] at hdelay
      exact .inr ⟨rfl, htrigger, hdelay⟩
  · rintro (⟨h, hrun⟩ | ⟨rfl, rfl, hdelay⟩)
    · have hlt := lt_of_getElem? h.trigger
      have htake := take_concat deed (Nat.le_of_lt hlt)
      exact ⟨List.getElem?_append_left hlt ▸ h.trigger, htake ▸ h.delay,
        (not_mem_drop_concat hlt).mpr ⟨h.unstarted, hrun⟩⟩
    · refine ⟨List.getElem?_concat_length, ?_, not_mem_drop_concat_length _⟩
      rw [List.take_left]
      exact hdelay

/-- An armed timer is dropped by the next trigger, by a cancel, and by a run at which it is due. -/
theorem armed_concat : Armed o (deeds ++ [deed]) i due ↔
    (Armed o deeds i due ∧ deed ≠ .trigger ∧ deed ≠ .cancel ∧
      (deed = .run → due.reached (o.clockAfter deeds) = false)) ∨
    (i = deeds.length ∧ deed = .trigger ∧ (o.delayAfter deeds).le 0.0 = false ∧
      due = (o.clockAfter deeds).later (o.delayAfter deeds)) := by
  let Early (before : List Deed) : Prop := due.reached (o.clockAfter before) = false
  have hearly (hlt : i < deeds.length) :
      (∀ j, i < j → (deeds ++ [deed])[j]? = some .run → Early ((deeds ++ [deed]).take j)) ↔
        (∀ j, i < j → deeds[j]? = some .run → Early (deeds.take j)) ∧ (deed = .run → Early deeds) :=
    forall_run_concat hlt
  constructor
  · intro h
    have hdelay := h.delay
    have hdue := h.due_eq
    obtain ⟨hlt, htrigger⟩ | ⟨rfl, htrigger⟩ := getElem?_concat_eq_some h.trigger
    · rw [take_concat deed (Nat.le_of_lt hlt)] at hdelay hdue
      obtain ⟨hlast, hagain⟩ := (not_mem_drop_concat hlt).mp h.last
      obtain ⟨hkept, hcancel⟩ := (not_mem_drop_concat hlt).mp h.kept
      obtain ⟨hbefore, hrun⟩ := (hearly hlt).mp h.early
      exact .inl ⟨⟨htrigger, hdelay, hdue, hlast, hkept, hbefore⟩, hagain, hcancel, hrun⟩
    · rw [List.take_left] at hdelay hdue
      exact .inr ⟨rfl, htrigger, hdelay, hdue⟩
  · rintro (⟨h, hagain, hcancel, hrun⟩ | ⟨rfl, rfl, hdelay, rfl⟩)
    · have hlt := lt_of_getElem? h.trigger
      have htake := take_concat deed (Nat.le_of_lt hlt)
      exact ⟨List.getElem?_append_left hlt ▸ h.trigger, htake ▸ h.delay, htake ▸ h.due_eq,
        (not_mem_drop_concat hlt).mpr ⟨h.last, hagain⟩, (not_mem_drop_concat hlt).mpr ⟨h.kept, hcancel⟩,
        (hearly hlt).mpr ⟨h.early, hrun⟩⟩
    · refine ⟨List.getElem?_concat_length, ?_, ?_, not_mem_drop_concat_length _,
        not_mem_drop_concat_length _, fun j hj hrun => ?_⟩
      · rw [List.take_left]
        exact hdelay
      · rw [List.take_left]
      · obtain ⟨hjlt, -⟩ | ⟨-, htrigger⟩ := getElem?_concat_eq_some hrun
        · omega
        · cases htrigger

/-! ## The loop -/

abbrev Resume (σ : Type) := Option Fault → σ × Nat → Course (σ × Nat)

/-- A task that adds so much to the count as it goes on, and never changes it after that. -/
def Adds (k : Nat) (resume : Resume σ) : Prop :=
  ∀ state n, ∃ course : Course σ, resume none (state, n) = course.beside (n + k)

/-- The tasks that are ready start the callback so often. -/
inductive Starts : Nat → List (Nat × Resume σ) → Prop
  | nil : Starts 0 []
  | cons {k n : Nat} {entry : Nat × Resume σ} {rest : List (Nat × Resume σ)} :
      Adds k entry.2 → Starts n rest → Starts (k + n) (entry :: rest)

theorem Starts.append {n m : Nat} {front back : List (Nat × Resume σ)} (h : Starts n front)
    (h' : Starts m back) : Starts (n + m) (front ++ back) := by
  induction h with
  | nil => rwa [Nat.zero_add]
  | cons hadds _ ih =>
    rw [Nat.add_assoc]
    exact .cons hadds ih

theorem Starts.of_waiting {entries : List (Nat × Resume σ)} (h : ∀ entry ∈ entries, Adds 0 entry.2) :
    Starts 0 entries := by
  induction entries with
  | nil => exact .nil
  | cons entry rest ih =>
    have hrest := ih fun other ho => h other (List.mem_cons_of_mem _ ho)
    exact .cons (h entry List.mem_cons_self) hrest

theorem starts_unbegun (callback : σ → Course σ) (id : Nat) :
    Starts 1 [(id, Loop.unbegun (counted callback))] :=
  .cons (fun state _ => ⟨callback state, rfl⟩) .nil

/-- Tasks have gone on that brought the count up to so much, and those at the gate will leave it so. -/
structure Left (n : Nat) (l : Loop (σ × Nat)) : Prop where
  started : l.state.2 = n
  ready : l.ready = []
  waiting : ∀ entry ∈ l.waiting, Adds 0 entry.2

variable {l : Loop (σ × Nat)} {n k : Nat}

theorem follow_left (h : Left n l) (id : Nat) (course : Course σ) :
    Left (n + k) (l.follow id (course.beside (n + k))) := by
  induction course with
  | ended result state => exact ⟨rfl, h.ready, h.waiting⟩
  | waiting gated state resume ih =>
    show Left (n + k) (if (l.gateOpen || !gated) = true
      then l.follow id ((resume none state).beside (n + k)) else l.park id _)
    split
    · exact ih none state
    · refine ⟨rfl, h.ready, fun entry hentry => ?_⟩
      obtain hentry | hentry := List.mem_append.mp hentry
      · exact h.waiting entry hentry
      · rw [List.mem_singleton.mp hentry]
        exact fun state n => ⟨resume none state, rfl⟩

theorem follow_all_left {entries : List (Nat × Resume σ)} (hentries : Starts k entries) (h : Left n l) :
    Left (n + k) (entries.foldl (fun l entry => l.follow entry.1 (entry.2 none l.state)) l) := by
  induction hentries generalizing l n with
  | nil => exact h
  | @cons more rest entry _ hadds _ ih =>
    obtain ⟨course, hcourse⟩ := hadds l.state.1 l.state.2
    have hfollow : Left (n + more) (l.follow entry.1 (entry.2 none l.state)) := by
      rw [hcourse, h.started]
      exact follow_left h _ course
    rw [← Nat.add_assoc]
    exact ih hfollow

/-- A run starts the callback as often as the tasks that are ready do. -/
theorem settle_left (hready : Starts k l.ready) (hwaiting : ∀ entry ∈ l.waiting, Adds 0 entry.2) :
    Left (l.state.2 + k) l.settle :=
  follow_all_left hready ⟨rfl, rfl, hwaiting⟩

/-! ## The invariant -/

structure Tells (callback : σ → Course σ) (o : Origin) (deeds : List Deed) (d : Debounced (σ × Nat)) :
    Prop where
  callback : d.callback = counted callback
  delay : d.debouncer.delay = o.delayAfter deeds
  now : d.now = o.clockAfter deeds
  armed : ∀ due, d.debouncer.due = some due ↔ ∃ i, Armed o deeds i due
  prompt : ∃ triggers : List Nat, triggers.Nodup ∧ (∀ i, i ∈ triggers ↔ Prompt o deeds i) ∧
    Starts triggers.length d.loop.ready
  waiting : ∀ entry ∈ d.loop.waiting, Adds 0 entry.2

variable {callback : σ → Course σ} {d : Debounced (σ × Nat)}

@[simp] theorem delayAfter_concat (o : Origin) (deeds : List Deed) (deed : Deed) :
    o.delayAfter (deeds ++ [deed]) =
      match deed with | .setDelay other => other | _ => o.delayAfter deeds := by
  simp only [Origin.delayAfter, List.foldl_append, List.foldl_cons, List.foldl_nil]

@[simp] theorem clockAfter_concat (o : Origin) (deeds : List Deed) (deed : Deed) :
    o.clockAfter (deeds ++ [deed]) =
      match deed with | .pass seconds => (o.clockAfter deeds).later seconds | _ => o.clockAfter deeds := by
  simp only [Origin.clockAfter, List.foldl_append, List.foldl_cons, List.foldl_nil]

theorem Tells.idle (callback : σ → Course σ) (state : σ) (gateOpen : Bool) (o : Origin) :
    Tells callback o [] (idle callback state gateOpen o.delay o.now) where
  callback := rfl
  delay := rfl
  now := rfl
  armed _ := iff_of_false nofun fun ⟨_, h⟩ => (nomatch h.trigger)
  prompt := ⟨[], List.nodup_nil, fun _ => iff_of_false List.not_mem_nil fun h => (nomatch h.trigger), .nil⟩
  waiting _ h := (List.not_mem_nil h).elim

/-- A deed that is no trigger and no run, and leaves the timer and the tasks as they are. -/
theorem Tells.aside (h : Tells callback o deeds d) {d' : Debounced (σ × Nat)} (htrigger : deed ≠ .trigger)
    (hcancel : deed ≠ .cancel) (hrun : deed ≠ .run) (hcallback : d'.callback = d.callback)
    (hdelay : d'.debouncer.delay = o.delayAfter (deeds ++ [deed]))
    (hnow : d'.now = o.clockAfter (deeds ++ [deed])) (hdue : d'.debouncer.due = d.debouncer.due)
    (hready : ∀ n, Starts n d.loop.ready → Starts n d'.loop.ready)
    (hwaiting : ∀ entry ∈ d'.loop.waiting, Adds 0 entry.2) : Tells callback o (deeds ++ [deed]) d' := by
  obtain ⟨triggers, hnodup, hmem, hstarts⟩ := h.prompt
  refine ⟨hcallback.trans h.callback, hdelay, hnow, fun due => ?_,
    ⟨triggers, hnodup, fun i => ?_, hready _ hstarts⟩, hwaiting⟩
  · rw [hdue, h.armed due]
    simp [armed_concat, htrigger, hcancel, hrun]
  · rw [hmem i]
    simp [prompt_concat, htrigger, hrun]

theorem trigger_at_once {d : Debounced σ} (h : d.debouncer.delay.le 0.0 = true) :
    d.trigger = { d with debouncer := d.debouncer.cancel }.fire := by
  unfold trigger Debouncer.trigger
  rw [if_pos h]
  rfl

theorem trigger_later {d : Debounced σ} (h : d.debouncer.delay.le 0.0 = false) :
    d.trigger = { d with
      debouncer := { d.debouncer with due := some (d.now.later d.debouncer.delay) } } := by
  unfold trigger Debouncer.trigger
  rw [if_neg (Bool.eq_false_iff.mp h)]
  rfl

theorem Tells.trigger_prompt (h : Tells callback o deeds d)
    (hdelay : (o.delayAfter deeds).le 0.0 = true) : Tells callback o (deeds ++ [.trigger]) d.trigger := by
  obtain ⟨triggers, hnodup, hmem, hstarts⟩ := h.prompt
  have hnew : deeds.length ∉ triggers := fun hthere =>
    Nat.lt_irrefl _ (lt_of_getElem? ((hmem _).mp hthere).trigger)
  rw [trigger_at_once (h.delay ▸ hdelay)]
  refine ⟨h.callback, h.delay.trans (delayAfter_concat o deeds .trigger).symm,
    h.now.trans (clockAfter_concat o deeds .trigger).symm, fun due => ?_,
    ⟨deeds.length :: triggers, List.nodup_cons.mpr ⟨hnew, hnodup⟩, fun i => ?_, ?_⟩, h.waiting⟩
  · refine iff_of_false nofun fun ⟨i, harmed⟩ => ?_
    simp [armed_concat, hdelay] at harmed
  · simp [prompt_concat, hmem, hdelay, or_comm]
  · show Starts _ (d.loop.ready ++ [(_, Loop.unbegun d.callback)])
    rw [h.callback]
    exact hstarts.append (starts_unbegun callback _)

theorem Tells.trigger_armed (h : Tells callback o deeds d)
    (hdelay : (o.delayAfter deeds).le 0.0 = false) : Tells callback o (deeds ++ [.trigger]) d.trigger := by
  obtain ⟨triggers, hnodup, hmem, hstarts⟩ := h.prompt
  rw [trigger_later (h.delay ▸ hdelay)]
  refine ⟨h.callback, h.delay.trans (delayAfter_concat o deeds .trigger).symm,
    h.now.trans (clockAfter_concat o deeds .trigger).symm, fun due => ?_,
    ⟨triggers, hnodup, fun i => ?_, hstarts⟩, h.waiting⟩
  · rw [h.now, h.delay, Option.some_inj]
    constructor
    · rintro rfl
      exact ⟨deeds.length, armed_concat.mpr (.inr ⟨rfl, rfl, hdelay, rfl⟩)⟩
    · rintro ⟨i, harmed⟩
      obtain ⟨-, htrigger, -⟩ | ⟨-, -, -, hdue⟩ := armed_concat.mp harmed
      · exact absurd rfl htrigger
      · exact hdue.symm
  · simp [prompt_concat, hmem, hdelay]

theorem Tells.trigger (h : Tells callback o deeds d) :
    Tells callback o (deeds ++ [.trigger]) d.trigger := by
  cases hdelay : (o.delayAfter deeds).le 0.0 with
  | true => exact h.trigger_prompt hdelay
  | false => exact h.trigger_armed hdelay

theorem Tells.cancel (h : Tells callback o deeds d) : Tells callback o (deeds ++ [.cancel]) d.cancel := by
  obtain ⟨triggers, hnodup, hmem, hstarts⟩ := h.prompt
  refine ⟨h.callback, h.delay.trans (delayAfter_concat o deeds .cancel).symm,
    h.now.trans (clockAfter_concat o deeds .cancel).symm, fun due => ?_,
    ⟨triggers, hnodup, fun i => ?_, hstarts⟩, h.waiting⟩
  · refine iff_of_false nofun fun ⟨i, harmed⟩ => ?_
    simp [armed_concat] at harmed
  · simp [prompt_concat, hmem]

theorem armed_unique {i' : Nat} {due' : Instant} (h : Armed o deeds i due) (h' : Armed o deeds i' due') :
    i = i' ∧ due = due' := by
  have hle {i i' : Nat} {due due' : Instant} (h : Armed o deeds i due) (h' : Armed o deeds i' due') :
      i' ≤ i := by
    refine Nat.le_of_not_lt fun hlt => h.last (List.mem_of_getElem? (i := i' - (i + 1)) ?_)
    rw [List.getElem?_drop, Nat.add_sub_cancel' hlt]
    exact h'.trigger
  obtain rfl := Nat.le_antisymm (hle h' h) (hle h h')
  exact ⟨rfl, h.due_eq.trans h'.due_eq.symm⟩

theorem settle_due {d : Debounced σ} (h : d.debouncer.isDue d.now = true) :
    d.settle = { d with
      loop := (d.loop.settle.spawn d.callback).2.settle
      debouncer := d.debouncer.fired (d.loop.settle.spawn d.callback).1 } := by
  unfold settle fireDue
  dsimp only
  rw [if_pos h]
  rfl

theorem settle_not_due {d : Debounced σ} (h : d.debouncer.isDue d.now = false) :
    d.settle = { d with loop := d.loop.settle.settle } := by
  unfold settle fireDue
  dsimp only
  rw [if_neg (Bool.eq_false_iff.mp h)]

theorem Tells.isDue_iff (h : Tells callback o deeds d) : d.debouncer.isDue d.now = true ↔
    ∃ i due, Armed o deeds i due ∧ due.reached (o.clockAfter deeds) = true := by
  rw [Debouncer.isDue, Option.any_eq_true, h.now]
  constructor
  · rintro ⟨due, hdue, hreached⟩
    obtain ⟨i, harmed⟩ := (h.armed due).mp hdue
    exact ⟨i, due, harmed, hreached⟩
  · rintro ⟨i, due, harmed, hreached⟩
    exact ⟨due, (h.armed due).mpr ⟨i, harmed⟩, hreached⟩

theorem not_prompt_run : ¬ Prompt o (deeds ++ [.run]) i := by
  simp [prompt_concat]

/-- Where the timer is due, a run starts the callback once more than the ready tasks do. -/
theorem Tells.run_due (h : Tells callback o deeds d) (hdue : d.debouncer.isDue d.now = true) :
    Tells callback o (deeds ++ [.run]) d.settle ∧ ∃ triggers : List Nat, triggers.Nodup ∧
      (∀ i, i ∈ triggers ↔ Due o deeds i) ∧ d.settle.started = d.started + triggers.length := by
  obtain ⟨triggers, hnodup, hmem, hstarts⟩ := h.prompt
  obtain ⟨i, due, harmed, hreached⟩ := h.isDue_iff.mp hdue
  have hready := settle_left hstarts h.waiting
  have hfired : Starts 1 (d.loop.settle.spawn d.callback).2.ready := by
    show Starts 1 (d.loop.settle.ready ++ [(_, Loop.unbegun d.callback)])
    rw [hready.ready, h.callback]
    exact starts_unbegun callback _
  have hrun := settle_left hfired hready.waiting
  have hnew : i ∉ triggers := fun hthere => by
    have hdelay := ((hmem i).mp hthere).delay
    rw [harmed.delay] at hdelay
    cases hdelay
  rw [settle_due hdue]
  refine ⟨⟨h.callback, h.delay.trans (delayAfter_concat o deeds .run).symm,
    h.now.trans (clockAfter_concat o deeds .run).symm, fun other => ?_,
    ⟨[], List.nodup_nil, fun _ => iff_of_false List.not_mem_nil not_prompt_run, ?_⟩, hrun.waiting⟩,
    i :: triggers, List.nodup_cons.mpr ⟨hnew, hnodup⟩, fun j => ?_, ?_⟩
  · refine iff_of_false nofun fun ⟨j, hother⟩ => ?_
    obtain ⟨hold, -, -, hearly⟩ | ⟨-, htrigger, -⟩ := armed_concat.mp hother
    · obtain ⟨-, rfl⟩ := armed_unique harmed hold
      cases hreached.symm.trans (hearly rfl)
    · cases htrigger
  · rw [hrun.ready]
    exact .nil
  · rw [List.mem_cons, hmem j, Due, or_comm]
    refine or_congr_right ⟨?_, fun ⟨due', hother, _⟩ => (armed_unique harmed hother).1.symm⟩
    rintro rfl
    exact ⟨due, harmed, hreached⟩
  · rw [List.length_cons, ← Nat.add_assoc]
    exact hrun.started.trans (congrArg (· + 1) hready.started)

theorem Tells.run_not_due (h : Tells callback o deeds d) (hdue : d.debouncer.isDue d.now = false) :
    Tells callback o (deeds ++ [.run]) d.settle ∧ ∃ triggers : List Nat, triggers.Nodup ∧
      (∀ i, i ∈ triggers ↔ Due o deeds i) ∧ d.settle.started = d.started + triggers.length := by
  obtain ⟨triggers, hnodup, hmem, hstarts⟩ := h.prompt
  have hready := settle_left hstarts h.waiting
  have hrun := settle_left (k := 0) (hready.ready ▸ .nil) hready.waiting
  have hnone : ∀ i due, Armed o deeds i due → due.reached (o.clockAfter deeds) = false :=
    fun i due harmed => Bool.eq_false_iff.mpr fun hreached => by
      rw [h.isDue_iff.mpr ⟨i, due, harmed, hreached⟩] at hdue
      cases hdue
  rw [settle_not_due hdue]
  refine ⟨⟨h.callback, h.delay.trans (delayAfter_concat o deeds .run).symm,
    h.now.trans (clockAfter_concat o deeds .run).symm, fun due => ?_,
    ⟨[], List.nodup_nil, fun _ => iff_of_false List.not_mem_nil not_prompt_run, ?_⟩, hrun.waiting⟩,
    triggers, hnodup, fun i => ?_, ?_⟩
  · refine (h.armed due).trans (exists_congr fun i => ?_)
    rw [armed_concat]
    exact ⟨fun harmed => .inl ⟨harmed, nofun, nofun, fun _ => hnone i due harmed⟩,
      fun harmed => (harmed.resolve_right fun hlast => nomatch hlast.2.1).1⟩
  · rw [hrun.ready]
    exact .nil
  · rw [hmem i, Due]
    exact ⟨.inl, fun hi => hi.resolve_right fun ⟨due, harmed, hreached⟩ => by
      cases hreached.symm.trans (hnone i due harmed)⟩
  · exact hrun.started.trans hready.started

theorem Tells.run (h : Tells callback o deeds d) :
    Tells callback o (deeds ++ [.run]) d.settle ∧ ∃ triggers : List Nat, triggers.Nodup ∧
      (∀ i, i ∈ triggers ↔ Due o deeds i) ∧ d.settle.started = d.started + triggers.length := by
  cases hdue : d.debouncer.isDue d.now with
  | true => exact h.run_due hdue
  | false => exact h.run_not_due hdue

theorem Tells.perform (h : Tells callback o deeds d) (deed : Deed) :
    Tells callback o (deeds ++ [deed]) (d.perform deed) := by
  cases deed with
  | trigger => exact h.trigger
  | cancel => exact h.cancel
  | setDelay delay =>
    exact h.aside nofun nofun nofun rfl (delayAfter_concat o deeds (.setDelay delay)).symm
      (h.now.trans (clockAfter_concat o deeds (.setDelay delay)).symm) rfl (fun _ => id) h.waiting
  | pass seconds =>
    refine h.aside nofun nofun nofun rfl (h.delay.trans (delayAfter_concat o deeds (.pass seconds)).symm)
      ?_ rfl (fun _ => id) h.waiting
    rw [clockAfter_concat, ← h.now]
    rfl
  | run => exact h.run.1
  | block =>
    exact h.aside nofun nofun nofun rfl (h.delay.trans (delayAfter_concat o deeds .block).symm)
      (h.now.trans (clockAfter_concat o deeds .block).symm) rfl (fun _ => id) h.waiting
  | unblock =>
    exact h.aside nofun nofun nofun rfl (h.delay.trans (delayAfter_concat o deeds .unblock).symm)
      (h.now.trans (clockAfter_concat o deeds .unblock).symm) rfl
      (fun _ hstarts => hstarts.append (.of_waiting h.waiting)) fun _ hnone => (List.not_mem_nil hnone).elim

theorem Tells.after (h : Tells callback o deeds d) (rest : List Deed) :
    Tells callback o (deeds ++ rest) (d.after rest) := by
  induction rest generalizing deeds d with
  | nil => rwa [List.append_nil]
  | cons deed rest ih =>
    rw [← List.singleton_append, ← List.append_assoc]
    exact ih (h.perform deed)

/-! ## Results -/

theorem started_perform (d : Debounced (σ × Nat)) (hdeed : deed ≠ .run) :
    (d.perform deed).started = d.started := by
  cases deed with
  | trigger =>
    show d.trigger.started = d.started
    cases hdelay : d.debouncer.delay.le 0.0 with
    | true =>
      rw [trigger_at_once hdelay]
      rfl
    | false =>
      rw [trigger_later hdelay]
      rfl
  | run => exact absurd rfl hdeed
  | _ => rfl

theorem not_due_again {j' : Nat} (hj : deeds[j]? = some .run) (h : Due o (deeds.take j) i)
    (hlt : j < j') : ¬ Due o (deeds.take j') i := by
  have hij : i < j := by
    obtain h | ⟨due, h, -⟩ := h <;>
    · have hi := lt_of_getElem? h.trigger
      rw [List.length_take] at hi
      omega
  have hrun : (deeds.take j')[j]? = some .run := by
    rw [List.getElem?_take_of_lt hlt]
    exact hj
  have htake : (deeds.take j').take j = deeds.take j := by
    rw [List.take_take, Nat.min_eq_left (Nat.le_of_lt hlt)]
  rintro (hagain | ⟨due, hagain, -⟩)
  · refine hagain.unstarted (List.mem_of_getElem? (i := j - (i + 1)) ?_)
    rw [List.getElem?_drop, Nat.add_sub_cancel' hij]
    exact hrun
  · have hearly := hagain.early j hij hrun
    have hdelay := hagain.delay
    have hdue := hagain.due_eq
    rw [htake] at hearly
    rw [List.take_take, Nat.min_eq_left (by omega)] at hdelay hdue
    obtain h | ⟨due', h, hreached⟩ := h
    · have hprompt := h.delay
      rw [List.take_take, Nat.min_eq_left (by omega), hdelay] at hprompt
      cases hprompt
    · have hdue' := h.due_eq
      rw [List.take_take, Nat.min_eq_left (by omega), ← hdue] at hdue'
      subst hdue'
      cases hreached.symm.trans hearly

/-- The callback is started once for each trigger that is due when the loop runs, and at no other time; no
trigger is due twice. The timer is armed while there is a trigger that it is armed by. Such a trigger is due
once its instant is past, if that is in the first `2 ^ 24` seconds of the clock. -/
theorem triggers_coalesced (callback : σ → Course σ) (state : σ) (gateOpen : Bool) (o : Origin)
    (deeds : List Deed) :
    let d := (idle callback state gateOpen o.delay o.now).after deeds
    (d.debouncer.pending = true ↔ ∃ i due, Armed o deeds i due) ∧
    (∀ deed, deed ≠ .run → (d.perform deed).started = d.started) ∧
    (∃ triggers : List Nat, triggers.Nodup ∧ (∀ i, i ∈ triggers ↔ Due o deeds i) ∧
      (d.perform .run).started = d.started + triggers.length) ∧
    (∀ i j j', deeds[j]? = some .run → deeds[j']? = some .run →
      Due o (deeds.take j) i → Due o (deeds.take j') i → j = j') ∧
    ∀ i due, Armed o deeds i due → Double.le 0.0 (o.clockAfter deeds) = true →
      (o.clockAfter deeds).lt 16777216.0 = true → due.le (o.clockAfter deeds) = true →
      Due o deeds i := by
  intro d
  have h : Tells callback o deeds d := (Tells.idle callback state gateOpen o).after deeds
  refine ⟨?_, fun deed hdeed => started_perform d hdeed, h.run.2, fun i j j' hj hj' hdue hdue' => ?_,
    fun i due harmed hstart hlast hpast => .inr ⟨due, harmed, Instant.reached_of_le hstart hlast hpast⟩⟩
  · rw [Debouncer.pending, Option.isSome_iff_exists, exists_comm]
    exact exists_congr h.armed
  -- what was due at one run is not due at a later one
  · rcases Nat.lt_trichotomy j j' with hlt | heq | hgt
    · exact absurd hdue' (not_due_again hj hdue hlt)
    · exact heq
    · exact absurd hdue (not_due_again hj' hdue' hgt)

/-- The clock goes in ticks. A timer can go off a tick early, and late on the clock it does not go off at its
instant but after it. -/
theorem timer_ticks :
    (let o : Origin := ⟨1.0, 0.0⟩
      let deeds := [.trigger, .pass 0.9999999991]
      let d := (idle (Tally.callback none) {} true o.delay o.now).after deeds
      (o.clockAfter deeds).lt (o.now.later o.delay) = true ∧ d.started = 0 ∧
        (d.perform .run).started = 1) ∧
    (let o : Origin := ⟨5.0, 100000000.0⟩
      let deeds := [.trigger, .pass 5.0]
      let d := (idle (Tally.callback none) {} true o.delay o.now).after deeds
      (o.now.later o.delay).le (o.clockAfter deeds) = true ∧ d.started = 0 ∧
        (d.perform .run).started = 0 ∧ (d.perform .run).debouncer.pending = true) := by
  decide +kernel

end Debounced

end DeclarationFetch
