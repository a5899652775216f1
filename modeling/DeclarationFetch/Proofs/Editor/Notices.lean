import DeclarationFetch.Editor.FileSurface

/-! # Who hears of a change of a file

A watched file, of which everything may happen in any order: writes and deletions, registrations and
disposals, the passing of time, and the going on of any of the tasks that look.

* `Deed`, `after`: what happens, and what comes of it. What a listener does when it hears of a change is a
  deed that comes later, since who hears is settled before the first of them is called.
* `present`: the listeners of the registrations that are not disposed. Two of them may be equal, and then
  the release of one may take the other out of the list of the file.
* `Tracks`: the invariant. The list of the file holds the listeners that are present, and there is one task
  that is not cancelled if there is a listener, and none otherwise.
* `changes_noticed`: what this says of who is called and when.
-/

namespace DeclarationFetch

def Poll.live : Poll → Bool
  | .starting => true
  | .sleeping _ => true
  | .cancelled => false
  | .ended => false

@[simp] theorem Poll.live_cancel (p : Poll) : p.cancel.live = false := by cases p <;> rfl

namespace FileSurface

/-! ## The invariant

It is stated of the surface and of the listeners that are to be in its list, in any order. -/

structure Tracks (s : FileSurface) (present : List Listener) : Prop where
  listeners : s.listeners.Perm present
  polling : s.isPolling = true ↔ present ≠ []
  live : ∀ k, (∃ p, s.polls[k]? = some p ∧ p.live = true) ↔ s.current = some k

variable {s : FileSurface} {present before behind : List Listener} {listener : Listener}

theorem Tracks.idle (place : Location) (interval : Double) : Tracks { place, interval } [] where
  listeners := List.Perm.refl _
  polling := by simp [isPolling]
  live k := by simp

theorem Tracks.dead (h : Tracks s present) (hs : s.current = none) {k : Nat} {p : Poll}
    (hp : s.polls[k]? = some p) : p.live = false := by
  refine Bool.eq_false_iff.mpr fun hlive => ?_
  have hcurrent := (h.live k).mp ⟨p, hp, hlive⟩
  rw [hs] at hcurrent
  cases hcurrent

/-! ## Registrations -/

theorem listen_of_polling (hs : s.isPolling = true) (listener : Listener) (modified : Option Int) :
    s.listen listener modified = { s with listeners := s.listeners ++ [listener] } :=
  if_pos hs

theorem listen_of_idle (hs : ¬ s.isPolling = true) (listener : Listener) (modified : Option Int) :
    s.listen listener modified =
      { s with listeners := s.listeners ++ [listener] }.beginPolling modified :=
  if_neg hs

theorem listen_listeners (s : FileSurface) (listener : Listener) (modified : Option Int) :
    (s.listen listener modified).listeners = s.listeners ++ [listener] := by
  by_cases hs : s.isPolling = true
  · rw [listen_of_polling hs]
  · rw [listen_of_idle hs]
    rfl

/-- The time of the last look is forgotten with the first listener only. -/
theorem Tracks.listen_lastSeen (h : Tracks s present) (listener : Listener) (modified : Option Int) :
    (s.listen listener modified).lastSeen = if present = [] then modified else s.lastSeen := by
  by_cases hp : present = []
  · rw [if_pos hp, listen_of_idle fun hs => h.polling.mp hs hp]
    rfl
  · rw [if_neg hp, listen_of_polling (h.polling.mpr hp)]

theorem Tracks.beginPolling (h : Tracks s present) (hs : s.current = none) (modified : Option Int)
    (k : Nat) : (∃ p, (s.beginPolling modified).polls[k]? = some p ∧ p.live = true) ↔
      (s.beginPolling modified).current = some k := by
  show (∃ p, (s.polls ++ [Poll.starting])[k]? = some p ∧ p.live = true) ↔ some s.polls.length = some k
  constructor
  · rintro ⟨p, hp, hlive⟩
    by_cases hk : k < s.polls.length
    · rw [List.getElem?_append_left hk] at hp
      cases hlive.symm.trans (h.dead hs hp)
    · have hlt := (List.getElem?_eq_some_iff.mp hp).1
      rw [List.length_append, List.length_singleton] at hlt
      exact congrArg some (by omega)
  · rintro hk
    cases hk
    exact ⟨.starting, List.getElem?_concat_length, rfl⟩

theorem Tracks.listen (h : Tracks s present) (listener : Listener) (modified : Option Int) :
    Tracks (s.listen listener modified) (present ++ [listener]) := by
  have hlisteners := h.listeners.append_right [listener]
  rw [← s.listen_listeners listener modified] at hlisteners
  by_cases hs : s.isPolling = true
  · rw [listen_of_polling hs] at hlisteners ⊢
    exact ⟨hlisteners, iff_of_true hs (by simp), h.live⟩
  · rw [listen_of_idle hs] at hlisteners ⊢
    exact ⟨hlisteners, iff_of_true rfl (by simp),
      h.beginPolling (Option.not_isSome_iff_eq_none.mp hs) modified⟩

/-! ## Releases -/

theorem endPolling_eq {k : Nat} (hs : s.current = some k) :
    s.endPolling = { s with polls := s.polls.modify k Poll.cancel, current := none } := by
  unfold endPolling
  rw [hs]

theorem Tracks.endPolling (h : Tracks s present) {j : Nat} (hs : s.current = some j) {k : Nat} {p : Poll}
    (hp : (s.polls.modify j Poll.cancel)[k]? = some p) : p.live = false := by
  rw [List.getElem?_modify] at hp
  obtain ⟨q, hq, hqp⟩ := Option.map_eq_some_iff.mp hp
  split at hqp
  · exact hqp ▸ q.live_cancel
  · next hjk =>
    refine Bool.eq_false_iff.mpr fun hlive => hjk ?_
    have hcurrent := (h.live k).mp ⟨q, hq, hqp ▸ hlive⟩
    exact Option.some_inj.mp (hs.symm.trans hcurrent)

theorem Tracks.release (h : Tracks s (before ++ listener :: behind)) :
    ∃ s', s.release? listener = some s' ∧ s'.lastSeen = s.lastSeen ∧
      s'.listeners = s.listeners.erase listener ∧ Tracks s' (before ++ behind) := by
  have hmem : listener ∈ s.listeners := h.listeners.mem_iff.mpr (by simp)
  have hperm : (s.listeners.erase listener).Perm (before ++ behind) := by
    have herase := (h.listeners.trans List.perm_middle).erase listener
    rwa [List.erase_cons_head] at herase
  obtain ⟨k, hcurrent⟩ := Option.isSome_iff_exists.mp (h.polling.mpr (by simp))
  refine ⟨_, if_pos hmem, ?_⟩
  dsimp only
  split
  · next hnil =>
    rw [endPolling_eq (s := { s with listeners := s.listeners.erase listener }) hcurrent]
    have hnone : before ++ behind = [] := (List.isEmpty_iff.mp hnil ▸ hperm).nil_eq.symm
    refine ⟨rfl, rfl, hperm, iff_of_false Bool.false_ne_true (· hnone), fun j => ?_⟩
    refine iff_of_false (fun ⟨p, hp, hlive⟩ => ?_) (fun hj => nomatch hj)
    cases hlive.symm.trans (h.endPolling hcurrent hp)
  · next hsome =>
    have hpresent : before ++ behind ≠ [] := fun hnone =>
      hsome (List.isEmpty_iff.mpr (hnone ▸ hperm).eq_nil)
    exact ⟨rfl, rfl, hperm, iff_of_true (h.polling.mpr (by simp)) hpresent, h.live⟩

/-! ## Looks -/

theorem Tracks.set (h : Tracks s present) {k : Nat} {p q : Poll} (hp : s.polls[k]? = some p)
    (hlive : q.live = p.live) : Tracks { s with polls := s.polls.set k q } present := by
  refine ⟨h.listeners, h.polling, fun j => ?_⟩
  rw [← h.live j]
  obtain ⟨hlt, rfl⟩ := List.getElem?_eq_some_iff.mp hp
  by_cases hj : k = j
  · subst hj
    simp [hlt, hlive]
  · simp [hj]

theorem look_eq (s : FileSurface) (modified : Option Int) :
    s.look modified =
      ({ s with lastSeen := modified }, if modified = s.lastSeen then [] else s.listeners) := by
  unfold look
  split
  · next hm =>
    subst hm
    rfl
  · rfl

theorem Tracks.goOn (h : Tracks s present) (k : Nat) (now : Instant) (modified : Option Int) :
    Tracks (s.goOn k now modified).1 present := by
  unfold FileSurface.goOn
  split
  · next hp => exact h.set hp rfl
  · next due hp =>
    split
    · rw [look_eq]
      exact Tracks.set (s := { s with lastSeen := modified }) ⟨h.listeners, h.polling, h.live⟩ hp rfl
    · exact h
  · next hp => exact h.set hp rfl
  · exact h
  · exact h

end FileSurface

namespace WatchedFile

inductive Deed where
  | write (text : String) (modified : Int)
  | delete
  | register (listener : Listener)
  | dispose (n : Nat)
  | pass (seconds : Double)
  | goOn (k : Nat)

/-- What comes of a deed, and who is called. -/
def perform (w : WatchedFile) : Deed → WatchedFile × List Listener
  | .write text modified => (w.write text modified, [])
  | .delete => (w.delete, [])
  | .register listener => (w.register listener, [])
  | .dispose n => (w.disposeAt n, [])
  | .pass seconds => (w.pass seconds, [])
  | .goOn k => w.goOn k

def after (w : WatchedFile) (deeds : List Deed) : WatchedFile :=
  deeds.foldl (fun w deed => (w.perform deed).1) w

def unwatched (place : Location) (interval : Double) (tree : FileTree) (modified : Option Int)
    (now : Instant) : WatchedFile :=
  { surface := { place, interval }, tree, modified, now }

/-- The listeners of the registrations that are not disposed, in order. -/
def standing (registrations : List (Listener × Subscription)) : List Listener :=
  (registrations.filter fun r => !r.2.disposed).map (·.1)

def present (w : WatchedFile) : List Listener := standing w.registrations

def Wakes (w : WatchedFile) (k : Nat) : Prop :=
  ∃ due, w.surface.polls[k]? = some (.sleeping due) ∧ w.surface.wakes due w.now = true

variable {w : WatchedFile} {listener : Listener} {n k : Nat}

theorem present_eq_nil_iff : w.present = [] ↔ ¬ ∃ r ∈ w.registrations, r.2.disposed = false := by
  simp [present, standing, List.filter_eq_nil_iff]

@[simp] theorem present_register (w : WatchedFile) (listener : Listener) :
    (w.register listener).present = w.present ++ [listener] := by
  simp [present, standing, register]

/-! ## Disposals -/

theorem disposeAt_eq (h : w.registrations[n]? = some (listener, ⟨false⟩)) :
    w.disposeAt n = { w with
      surface := (w.surface.release? listener).getD w.surface
      registrations := w.registrations.set n (listener, ⟨true⟩) } := by
  simp [disposeAt, h, Subscription.dispose]

/-- The second disposal of a registration does nothing, and neither does that of one that never was. -/
theorem disposeAt_idle (h : ∀ listener, w.registrations[n]? ≠ some (listener, ⟨false⟩)) :
    w.disposeAt n = w := by
  unfold disposeAt
  split
  · next listener subscription hn =>
    obtain ⟨disposed⟩ := subscription
    cases disposed with
    | false => exact absurd hn (h listener)
    | true =>
      obtain ⟨hlt, hget⟩ := List.getElem?_eq_some_iff.mp hn
      simp only [Subscription.dispose, Bool.not_true, Bool.false_eq_true, if_false]
      rw [← hget, List.set_getElem_self]
  · rfl

theorem standing_set {registrations : List (Listener × Subscription)}
    (h : registrations[n]? = some (listener, ⟨false⟩)) :
    ∃ before behind, standing registrations = before ++ listener :: behind ∧
      standing (registrations.set n (listener, ⟨true⟩)) = before ++ behind := by
  obtain ⟨hlt, hget⟩ := List.getElem?_eq_some_iff.mp h
  have hsplit : registrations =
      registrations.take n ++ (listener, ⟨false⟩) :: registrations.drop (n + 1) := by
    rw [← hget, List.getElem_cons_drop, List.take_append_drop]
  refine ⟨standing (registrations.take n), standing (registrations.drop (n + 1)), ?_, ?_⟩
  · exact (congrArg standing hsplit).trans (by simp [standing])
  · rw [List.set_eq_take_append_cons_drop, if_pos hlt]
    simp [standing]

theorem disposeAt_tracks (h : w.surface.Tracks w.present) (n : Nat) :
    w.disposeAt n = w ∨ ∃ before listener behind, w.present = before ++ listener :: behind ∧
      (w.disposeAt n).present = before ++ behind ∧
      (w.disposeAt n).surface.listeners = w.surface.listeners.erase listener ∧
      (w.disposeAt n).surface.lastSeen = w.surface.lastSeen ∧
      (w.disposeAt n).surface.Tracks (before ++ behind) := by
  by_cases hn : ∃ listener, w.registrations[n]? = some (listener, ⟨false⟩)
  · obtain ⟨listener, hn⟩ := hn
    obtain ⟨before, behind, hpresent, hleft⟩ := standing_set hn
    rw [present, hpresent] at h
    obtain ⟨s', hs', hseen, hlisteners, htracks⟩ := h.release
    refine .inr ⟨before, listener, behind, hpresent, ?_⟩
    rw [disposeAt_eq hn, hs']
    exact ⟨hleft, hlisteners, hseen, htracks⟩
  · exact .inl (disposeAt_idle (not_exists.mp hn))

/-! ## One deed -/

theorem perform_tracks (h : w.surface.Tracks w.present) (deed : Deed) :
    (w.perform deed).1.surface.Tracks (w.perform deed).1.present := by
  cases deed with
  | write text modified => exact h
  | delete => exact h
  | register listener =>
    show (w.register listener).surface.Tracks (w.register listener).present
    rw [present_register]
    exact h.listen listener w.modified
  | dispose n =>
    show (w.disposeAt n).surface.Tracks (w.disposeAt n).present
    obtain hidle | ⟨before, listener, behind, -, hleft, -, -, htracks⟩ := disposeAt_tracks h n
    · rw [hidle]
      exact h
    · rw [hleft]
      exact htracks
  | pass seconds => exact h
  | goOn k => exact h.goOn k w.now w.modified

theorem goOn_listeners (s : FileSurface) (k : Nat) (now : Instant) (modified : Option Int) :
    (s.goOn k now modified).1.listeners = s.listeners := by
  unfold FileSurface.goOn
  split
  · rfl
  · split
    · rw [FileSurface.look_eq]
      rfl
    · rfl
  · rfl
  · rfl
  · rfl

/-- As long as the listeners that are present differ, they are in the list in their order. -/
theorem perform_listeners (h : w.surface.Tracks w.present) (hordered : w.surface.listeners = w.present)
    (hdistinct : w.present.Nodup) (deed : Deed) :
    (w.perform deed).1.surface.listeners = (w.perform deed).1.present := by
  cases deed with
  | write text modified => exact hordered
  | delete => exact hordered
  | register listener =>
    show (w.register listener).surface.listeners = (w.register listener).present
    rw [present_register, ← hordered]
    exact w.surface.listen_listeners listener w.modified
  | dispose n =>
    show (w.disposeAt n).surface.listeners = (w.disposeAt n).present
    obtain hidle | ⟨before, listener, behind, hpresent, hleft, hlisteners, -, -⟩ := disposeAt_tracks h n
    · rw [hidle]
      exact hordered
    · have hfirst : listener ∉ before := fun hmem => by
        rw [hpresent] at hdistinct
        exact (List.nodup_append.mp hdistinct).2.2 _ hmem _ List.mem_cons_self rfl
      rw [hlisteners, hordered, hpresent, hleft, List.erase_append_right _ hfirst,
        List.erase_cons_head]
  | pass seconds => exact hordered
  | goOn k => exact (goOn_listeners w.surface k w.now w.modified).trans hordered

/-- At a wake-up all that are in the list hear of a change, if there is one. -/
theorem goOn_of_wakes (h : w.Wakes k) :
    (w.goOn k).1.surface.lastSeen = w.modified ∧
      (w.goOn k).2 = if w.modified = w.surface.lastSeen then [] else w.surface.listeners := by
  obtain ⟨due, hp, hwakes⟩ := h
  have hgo : w.surface.goOn k w.now w.modified =
      (({ w.surface with lastSeen := w.modified }).sleep k w.now,
        if w.modified = w.surface.lastSeen then [] else w.surface.listeners) := by
    simp only [FileSurface.goOn, hp, hwakes, if_true, FileSurface.look_eq]
  rw [goOn, hgo]
  exact ⟨rfl, rfl⟩

theorem goOn_of_not_wakes (h : ¬ w.Wakes k) :
    (w.goOn k).1.surface.lastSeen = w.surface.lastSeen ∧ (w.goOn k).2 = [] := by
  show (w.surface.goOn k w.now w.modified).1.lastSeen = _ ∧ (w.surface.goOn k w.now w.modified).2 = []
  unfold FileSurface.goOn
  split
  · exact ⟨rfl, rfl⟩
  · next due hp =>
    split
    · next hwakes => exact absurd ⟨due, hp, hwakes⟩ h
    · exact ⟨rfl, rfl⟩
  · exact ⟨rfl, rfl⟩
  · exact ⟨rfl, rfl⟩
  · exact ⟨rfl, rfl⟩

/-- Without a wake-up nobody is called, and the time of the last look is set anew only with a listener
that is the only one. -/
theorem perform_of_not_wakes (h : w.surface.Tracks w.present) {deed : Deed}
    (hdeed : ∀ k, deed = .goOn k → ¬ w.Wakes k) :
    (w.perform deed).2 = [] ∧
      (∀ listener, deed = .register listener → w.present = [] →
        (w.perform deed).1.surface.lastSeen = w.modified) ∧
      ((∀ listener, deed = .register listener → w.present ≠ []) →
        (w.perform deed).1.surface.lastSeen = w.surface.lastSeen) := by
  cases deed with
  | write text modified => exact ⟨rfl, nofun, fun _ => rfl⟩
  | delete => exact ⟨rfl, nofun, fun _ => rfl⟩
  | register listener =>
    have hseen := h.listen_lastSeen listener w.modified
    exact ⟨rfl, fun _ _ hnone => hseen.trans (if_pos hnone),
      fun hsome => hseen.trans (if_neg (hsome listener rfl))⟩
  | dispose n =>
    refine ⟨rfl, nofun, fun _ => ?_⟩
    show (w.disposeAt n).surface.lastSeen = _
    obtain hidle | ⟨_, _, _, -, -, -, hseen, -⟩ := disposeAt_tracks h n
    · rw [hidle]
    · exact hseen
  | pass seconds => exact ⟨rfl, nofun, fun _ => rfl⟩
  | goOn k =>
    obtain ⟨hseen, hheard⟩ := goOn_of_not_wakes (hdeed k rfl)
    exact ⟨hheard, nofun, fun _ => hseen⟩

/-! ## All deeds -/

theorem after_tracks (h : w.surface.Tracks w.present) (deeds : List Deed) :
    (w.after deeds).surface.Tracks (w.after deeds).present := by
  induction deeds generalizing w with
  | nil => exact h
  | cons deed deeds ih => exact ih (perform_tracks h deed)

/-- No two listeners that are present are equal, now and at any moment of what happens. -/
def Distinct (w : WatchedFile) (deeds : List Deed) : Prop :=
  ∀ earlier, earlier <+: deeds → (w.after earlier).present.Nodup

theorem after_listeners (h : w.surface.Tracks w.present) (hordered : w.surface.listeners = w.present)
    {deeds : List Deed} (hdistinct : w.Distinct deeds) :
    (w.after deeds).surface.listeners = (w.after deeds).present := by
  induction deeds generalizing w with
  | nil => exact hordered
  | cons deed deeds ih =>
    have hnow : w.present.Nodup := hdistinct [] List.nil_prefix
    exact ih (perform_tracks h deed) (perform_listeners h hordered hnow deed)
      fun earlier hearlier => hdistinct (deed :: earlier) (List.cons_prefix_cons.mpr ⟨rfl, hearlier⟩)

/-- A task looks at the file exactly while there is a registration that is not disposed, and it is the only
one. Each time it wakes up it calls all who are registered if the file has changed, and nobody otherwise. -/
theorem changes_noticed (place : Location) (interval : Double) (tree : FileTree) (modified : Option Int)
    (now : Instant) (deeds : List Deed) :
    let start := unwatched place interval tree modified now
    let w := start.after deeds
    (w.surface.isPolling = true ↔ ∃ r ∈ w.registrations, r.2.disposed = false) ∧
    (∀ k, (∃ p, w.surface.polls[k]? = some p ∧ p.live = true) ↔ w.surface.current = some k) ∧
    (∀ k, w.Wakes k → (w.goOn k).1.surface.lastSeen = w.modified ∧
      (w.modified = w.surface.lastSeen → (w.goOn k).2 = []) ∧
      (w.modified ≠ w.surface.lastSeen → (w.goOn k).2.Perm w.present ∧
        (start.Distinct deeds → (w.goOn k).2 = w.present))) ∧
    ∀ deed, (∀ k, deed = .goOn k → ¬ w.Wakes k) →
      (w.perform deed).2 = [] ∧
      (∀ listener, deed = .register listener → w.present = [] →
        (w.perform deed).1.surface.lastSeen = w.modified) ∧
      ((∀ listener, deed = .register listener → w.present ≠ []) →
        (w.perform deed).1.surface.lastSeen = w.surface.lastSeen) := by
  intro start w
  have hstart : start.surface.Tracks start.present := FileSurface.Tracks.idle place interval
  -- every deed keeps the surface in step with who is present
  have h : w.surface.Tracks w.present := after_tracks hstart deeds
  refine ⟨?_, h.live, fun k hwakes => ?_, fun deed hdeed => perform_of_not_wakes h hdeed⟩
  · rw [h.polling, ne_eq, present_eq_nil_iff, Decidable.not_not]
  · obtain ⟨hseen, hheard⟩ := goOn_of_wakes hwakes
    refine ⟨hseen, fun hsame => hheard.trans (if_pos hsame), fun hchanged => ?_⟩
    rw [hheard, if_neg hchanged]
    exact ⟨h.listeners, fun hdistinct => after_listeners hstart rfl hdistinct⟩

/-! ## The clock -/

def heard (w : WatchedFile) : List Deed → List Listener
  | [] => []
  | deed :: deeds => (w.perform deed).2 ++ (w.perform deed).1.heard deeds

def sweep (w : WatchedFile) : List Deed := (List.range w.surface.polls.length).map .goOn

theorem heard_append (w : WatchedFile) (deeds rest : List Deed) :
    w.heard (deeds ++ rest) = w.heard deeds ++ (w.after deeds).heard rest := by
  induction deeds generalizing w with
  | nil => rfl
  | cons deed deeds ih =>
    show (w.perform deed).2 ++ (w.perform deed).1.heard (deeds ++ rest) = _
    rw [ih, ← List.append_assoc]
    rfl

theorem run_eq (w : WatchedFile) : w.run = (w.after w.sweep, w.heard w.sweep) := by
  have hfold (ks : List Nat) (w : WatchedFile) (called : List Listener) :
      ks.foldl (fun done k => ((done.1.goOn k).1, done.2 ++ (done.1.goOn k).2)) (w, called) =
        (w.after (ks.map .goOn), called ++ w.heard (ks.map .goOn)) := by
    induction ks generalizing w called with
    | nil => simp [after, heard]
    | cons k ks ih =>
      rw [List.foldl_cons, ih, List.append_assoc]
      rfl
  exact hfold _ w []

theorem goOn_polls_length (s : FileSurface) (k : Nat) (now : Instant) (modified : Option Int) :
    (s.goOn k now modified).1.polls.length = s.polls.length := by
  unfold FileSurface.goOn
  split
  · simp [FileSurface.sleep]
  · split
    · simp [FileSurface.look_eq, FileSurface.sleep]
    · rfl
  · simp
  · rfl
  · rfl

theorem sweep_after_sweep (w : WatchedFile) : (w.after w.sweep).sweep = w.sweep := by
  have hlength (ks : List Nat) (w : WatchedFile) :
      (w.after (ks.map .goOn)).surface.polls.length = w.surface.polls.length := by
    induction ks generalizing w with
    | nil => rfl
    | cons k ks ih => exact (ih _).trans (goOn_polls_length w.surface k w.now w.modified)
  show (List.range (w.after w.sweep).surface.polls.length).map Deed.goOn = _
  rw [sweep, hlength]

/-- An advance of the clock is a course of deeds: all tasks go on before the jump and after it. -/
theorem advance_eq (w : WatchedFile) (seconds : Double) :
    w.advance seconds =
      (w.after (w.sweep ++ .pass seconds :: w.sweep), w.heard (w.sweep ++ .pass seconds :: w.sweep)) := by
  have hpass : ((w.after w.sweep).pass seconds).sweep = w.sweep := sweep_after_sweep w
  simp only [advance, run_eq, hpass, heard_append]
  simp [after, List.foldl_append, heard, perform]

end WatchedFile

end DeclarationFetch
