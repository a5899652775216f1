import DeclarationFetch.Session.Events

/-! # Guarded passes

What a task of a session does to the marks that tell whether sessions are resolving.

* `World.Calm`: a change that leaves these marks as they are; `World.Apart`: all of them but one.
* `Course.Holds`: wherever a task waits its session is marked, and when it ends the mark is as told, while
  the marks of other sessions are left alone.
* `resolveContents_cases`: a task that is to resolve ends at once where its session is marked, and
  otherwise holds the mark and takes it away in the end.
-/

namespace DeclarationFetch

namespace World

variable {w w' w'' : World} {id : Nat}

/-! ## Marks -/

def marked (w : World) (id : Nat) : Bool := (w.session id).isResolving

/-- No session has gone, and the marks are as they were. -/
structure Calm (w w' : World) : Prop where
  sessions : w.sessions.length ≤ w'.sessions.length
  marked : ∀ id, w'.marked id = w.marked id

/-- No session has gone, and the marks of all others are as they were. -/
structure Apart (id : Nat) (w w' : World) : Prop where
  sessions : w.sessions.length ≤ w'.sessions.length
  marked : ∀ other, other ≠ id → w'.marked other = w.marked other

theorem Calm.refl (w : World) : Calm w w := ⟨Nat.le_refl _, fun _ => rfl⟩

theorem Calm.trans (h : Calm w w') (h' : Calm w' w'') : Calm w w'' :=
  ⟨Nat.le_trans h.sessions h'.sessions, fun id => (h'.marked id).trans (h.marked id)⟩

theorem Calm.apart (h : Calm w w') : Apart id w w' := ⟨h.sessions, fun other _ => h.marked other⟩

theorem Apart.trans (h : Apart id w w') (h' : Apart id w' w'') : Apart id w w'' :=
  ⟨Nat.le_trans h.sessions h'.sessions, fun other ho => (h'.marked other ho).trans (h.marked other ho)⟩

theorem calm_of_sessions_eq (h : w'.sessions = w.sessions) : Calm w w' where
  sessions := Nat.le_of_eq (congrArg List.length h.symm)
  marked id := by
    unfold marked session
    rw [h]

theorem session_setSession (w : World) (id : Nat) (s : Session) (other : Nat) :
    (w.setSession id s).session other =
      if other = id ∧ id < w.sessions.length then s else w.session other := by
  unfold session setSession
  rw [List.getD_eq_getElem?_getD, List.getD_eq_getElem?_getD, List.getElem?_set]
  by_cases ho : id = other
  · subst ho
    by_cases hid : id < w.sessions.length <;> simp [hid]
  · simp [ho, Ne.symm ho]

theorem calm_setSession {s : Session} (h : s.isResolving = w.marked id) : Calm w (w.setSession id s) where
  sessions := Nat.le_of_eq List.length_set.symm
  marked other := by
    unfold marked
    rw [session_setSession]
    split
    · next ho => rw [h, ho.1, marked]
    · rfl

theorem calm_mapSession {f : Session → Session} (hf : ∀ s, (f s).isResolving = s.isResolving) :
    Calm w (w.mapSession id f) := calm_setSession (hf _)

theorem apart_setResolving (w : World) (id : Nat) (isResolving : Bool) :
    Apart id w (w.setResolving id isResolving) where
  sessions := Nat.le_of_eq List.length_set.symm
  marked other ho := by
    unfold marked setResolving mapSession
    rw [session_setSession, if_neg fun h => ho h.1]

theorem marked_setResolving (h : id < w.sessions.length) (isResolving : Bool) :
    (w.setResolving id isResolving).marked id = isResolving := by
  unfold marked setResolving mapSession
  rw [session_setSession, if_pos ⟨rfl, h⟩]

/-! ## What leaves the marks alone -/

theorem calm_report (w : World) (id : Nat) (listened : Handlers → Bool) (r : Report) :
    Calm w (w.report id listened r).2 := by
  unfold report
  dsimp only
  split
  · exact calm_of_sessions_eq rfl
  · exact .refl w

theorem calm_tellUpdate (w : World) (id : Nat) (u : Update) : Calm w (w.tellUpdate id u).2 :=
  calm_report w id _ _

theorem calm_putScene (w : World) (id : Nat) (s : Resolution.Scene Workspace) :
    Calm w (w.putScene id s) := by
  have hgather : Calm w ({ w with workspace := s.env }.gather id) := calm_of_sessions_eq rfl
  exact hgather.trans (calm_mapSession fun _ => rfl)

theorem calm_ask (w : World) (id : Nat) (request : Resolution.Request) :
    Calm w (w.ask id request).2 := by
  unfold ask
  split <;> exact calm_of_sessions_eq rfl

theorem calm_answer (w : World) (id : Nat) (request : Resolution.Request) (thrown : Option Fault) :
    Calm w (w.answer id request thrown).2 := by
  unfold answer
  split
  · exact .refl w
  · exact .refl w
  · next client _ =>
    generalize client.fetch request w.web = fetched
    obtain ⟨answer, client, web⟩ := fetched
    have hweb : Calm w { w with web } := calm_of_sessions_eq rfl
    exact hweb.trans (calm_setSession rfl)

theorem calm_readEditor (w : World) (id : Nat) : Calm w (w.readEditor id).2 := calm_of_sessions_eq rfl

theorem calm_refreshed (w : World) (id : Nat) : Calm w (w.refreshed id).2 := by
  unfold refreshed
  dsimp only
  split
  · have hrefresh : Calm w (if (w.session id).options.skipRefreshAfterResolve then (.ok (), w)
        else w.refreshEditor id : Except Fault Unit × World).2 := by
      split
      · exact .refl w
      · exact calm_of_sessions_eq rfl
    generalize (if (w.session id).options.skipRefreshAfterResolve then (.ok (), w)
      else w.refreshEditor id : Except Fault Unit × World) = refreshed at hrefresh
    obtain ⟨result, w'⟩ := refreshed
    cases result with
    | ok => exact hrefresh.trans (calm_setSession rfl)
    | error fault => exact hrefresh
  · exact .refl w

theorem calm_dispose (w : World) (id : Nat) : Calm w (w.dispose id) := by
  unfold dispose
  dsimp only
  have hset : Calm w (w.setSession id { w.session id with
      subscription := (w.session id).subscription.dispose.1
      debouncer := (w.session id).debouncer.cancel }) := calm_setSession rfl
  split
  · exact hset.trans (calm_of_sessions_eq rfl)
  · exact hset

theorem calm_closeSource (w : World) (id : Nat) : Calm w (w.closeSource id) := by
  unfold closeSource
  dsimp only
  split
  · next client _ _ =>
    have hweb : Calm w { w with web := (client.close w.web).2 } := calm_of_sessions_eq rfl
    exact hweb.trans (calm_setSession rfl)
  · exact .refl w

theorem calm_close (w : World) (id : Nat) : Calm w (w.close id) :=
  (calm_dispose w id).trans (calm_closeSource _ id)

theorem sessions_attachCache (p : Plan) (w : World) : (attachCache p w).2.sessions = w.sessions := by
  unfold attachCache
  split
  · rfl
  · split <;> rfl

theorem sessions_attachHost (p : Plan) (w : World) : (attachHost p w).2.sessions = w.sessions := by
  unfold attachHost
  split <;> rfl

/-- A session that there is not yet counts as one that is not marked, as a new one is. -/
theorem calm_addSession {s : Session} (h : s.isResolving = false) :
    Calm w { w with sessions := w.sessions ++ [s] } where
  sessions := by simp
  marked id := by
    unfold marked session
    rw [List.getD_eq_getElem?_getD, List.getD_eq_getElem?_getD]
    rcases Nat.lt_trichotomy id w.sessions.length with hid | hid | hid
    · rw [List.getElem?_append_left hid]
    · subst hid
      rw [List.getElem?_concat_length, List.getElem?_eq_none (Nat.le_refl _)]
      exact h
    · have hnone : (w.sessions ++ [s])[id]? = none := List.getElem?_eq_none (by
        rw [List.length_append, List.length_singleton]
        exact hid)
      rw [hnone, List.getElem?_eq_none (Nat.le_of_lt hid)]

theorem calm_attach (p : Plan) (w : World) :
    Calm w (attach p w).2 ∧ (attach p w).1 < (attach p w).2.sessions.length := by
  have hcached : Calm w (attachCache p w).2 := calm_of_sessions_eq (sessions_attachCache p w)
  have hhosted : Calm (attachCache p w).2 (attachHost p (attachCache p w).2).2 :=
    calm_of_sessions_eq (sessions_attachHost p _)
  refine ⟨(hcached.trans hhosted).trans ((calm_addSession rfl).trans (calm_of_sessions_eq rfl)), ?_⟩
  show _ < (_ ++ [_]).length
  rw [List.length_append]
  exact Nat.lt_succ_self _

theorem calm_setTimer (w : World) (id : Nat) : Calm w (w.setTimer id) := by
  unfold setTimer
  dsimp only
  split
  · exact calm_of_sessions_eq rfl
  · exact .refl w

end World

/-! ## Courses -/

open World (Apart Calm)

/-- Wherever the task waits its session is marked, and when it ends the mark is as told. From stop to
stop no other session is touched, whatever is thrown and whatever others have done to the world in the
meantime, as long as they leave the mark. -/
def Course.Holds (id : Nat) (last : Bool) : Course World → World → Prop
  | .ended _ w', w => Apart id w w' ∧ w'.marked id = last
  | .waiting _ w' resume, w =>
      Apart id w w' ∧ w'.marked id = true ∧
        ∀ thrown v, id < v.sessions.length → v.marked id = true → (resume thrown v).Holds id last v

namespace Course.Holds

variable {id : Nat} {last : Bool} {c : Course World} {w w' : World}

theorem of_apart (ha : Apart id w w') (h : c.Holds id last w') : c.Holds id last w := by
  cases c with
  | ended result w'' => exact ⟨ha.trans h.1, h.2⟩
  | waiting gated w'' resume => exact ⟨ha.trans h.1, h.2⟩

theorem andThen {next : Except Fault Unit → World → Course World} (hid : id < w.sessions.length)
    (h : c.Holds id true w)
    (hn : ∀ result v, id < v.sessions.length → v.marked id = true → (next result v).Holds id last v) :
    (c.andThen next).Holds id last w := by
  induction c generalizing w with
  | ended result w' =>
    exact of_apart h.1 (hn result w' (Nat.lt_of_lt_of_le hid h.1.sessions) h.2)
  | waiting gated w' resume ih =>
    exact ⟨h.1, h.2.1, fun thrown v hv hm => ih thrown v hv (h.2.2 thrown v hv hm)⟩

theorem onFailure {f : World → World} (h : c.Holds id last w) (hf : ∀ v, Calm v (f v)) :
    (c.onFailure f).Holds id last w := by
  unfold Course.onFailure
  induction c generalizing w with
  | ended result w' =>
    cases result with
    | ok => exact h
    | error fault => exact ⟨h.1.trans (hf w').apart, ((hf w').marked id).trans h.2⟩
  | waiting gated w' resume ih =>
    exact ⟨h.1, h.2.1, fun thrown v hv hm => ih thrown v (h.2.2 thrown v hv hm)⟩

end Course.Holds

namespace World

variable {w : World} {id : Nat}

theorem ended_holds {w' : World} (h : Calm w w') (hm : w.marked id = true) (result : Except Fault Unit) :
    (Course.ended result w').Holds id true w := ⟨h.apart, (h.marked id).trans hm⟩

/-- A pass keeps its session marked from stop to stop. -/
theorem course_holds (step : Resolution.Step Workspace Unit) (hid : id < w.sessions.length)
    (hm : w.marked id = true) : (course id step w).Holds id true w := by
  induction step generalizing w with
  | done result s => exact ended_holds (calm_putScene w id s) hm result
  | fetch request s resume ih =>
    have hasked := (calm_putScene w id s).trans (calm_ask _ id request)
    refine ⟨hasked.apart, (hasked.marked id).trans hm, fun thrown v hv hmv => ?_⟩
    have hanswered := calm_answer v id request thrown
    exact .of_apart hanswered.apart (ih _ _ (Nat.lt_of_lt_of_le hv hanswered.sessions)
      ((hanswered.marked id).trans hmv))

theorem finishPass_holds (result : Except Fault Unit) (hm : w.marked id = true) :
    (finishPass id result w).Holds id true w := by
  cases result with
  | ok => exact ended_holds (calm_refreshed w id) hm _
  | error fault => exact ended_holds (.refl w) hm _

theorem passOver_holds (hid : id < w.sessions.length) (hm : w.marked id = true) :
    (passOver id w).Holds id true w := by
  unfold passOver
  have htold := calm_tellUpdate w id .resolveNewImports
  generalize w.tellUpdate id .resolveNewImports = told at htold
  obtain ⟨result, w'⟩ := told
  have hid' := Nat.lt_of_lt_of_le hid htold.sessions
  have hm' := (htold.marked id).trans hm
  cases result with
  | error fault => exact ended_holds htold hm _
  | ok =>
    dsimp only
    refine .of_apart htold.apart ?_
    have hread := calm_readEditor w' id
    generalize w'.readEditor id = read at hread
    obtain ⟨result, v⟩ := read
    have hid'' := Nat.lt_of_lt_of_le hid' hread.sessions
    have hm'' := (hread.marked id).trans hm'
    cases result with
    | error fault => exact ended_holds hread hm' _
    | ok text =>
      refine .of_apart hread.apart ((course_holds _ hid'' hm'').andThen hid'' ?_)
      exact fun result v' _ hv => finishPass_holds result hv

/-- What is guarded takes the mark away in the end. -/
theorem guarded_holds {body : World → Course World} (hid : id < w.sessions.length)
    (h : (body (w.setResolving id true)).Holds id true (w.setResolving id true)) :
    (guarded id body w).Holds id false w := by
  have hset := apart_setResolving w id true
  refine .of_apart hset (h.andThen (Nat.lt_of_lt_of_le hid hset.sessions) fun result v hv _ => ?_)
  exact ⟨apart_setResolving v id false, marked_setResolving hv false⟩

/-- A task of the session's that has not begun ends at once without any effect, or else it begins where
the session is not marked, and gives the mark back in the end. -/
def Unbegun (id : Nat) (resume : Option Fault → World → Course World) : Prop :=
  ∀ thrown w, id < w.sessions.length →
    (∃ result, resume thrown w = .ended result w) ∨
      w.marked id = false ∧ (resume thrown w).Holds id false w

/-- A pass of the session's that has begun gives the mark back in the end. -/
def Begun (id : Nat) (resume : Option Fault → World → Course World) : Prop :=
  ∀ thrown w, id < w.sessions.length → w.marked id = true → (resume thrown w).Holds id false w

theorem resolveContents_cases (hid : id < w.sessions.length) :
    (w.marked id = true ∧ resolveContents id w = .ended (.ok ()) w) ∨
      w.marked id = false ∧ (resolveContents id w).Holds id false w := by
  unfold resolveContents
  cases hm : (w.session id).isResolving with
  | true => exact .inl ⟨hm, rfl⟩
  | false =>
    refine .inr ⟨hm, guarded_holds hid (passOver_holds ?_ (marked_setResolving hid true))⟩
    exact Nat.lt_of_lt_of_le hid (apart_setResolving w id true).sessions

theorem unbegun_resolveContents (id : Nat) : Unbegun id (Loop.unbegun (resolveContents id)) := by
  intro thrown w hid
  cases thrown with
  | some fault => exact .inl ⟨_, rfl⟩
  | none => exact (resolveContents_cases hid).imp_left fun h => ⟨_, h.2⟩

theorem unbegun_firstPass (id : Nat) : Unbegun id (Loop.unbegun (firstPass id)) := by
  intro thrown w hid
  cases thrown with
  | some fault => exact .inl ⟨_, rfl⟩
  | none =>
    refine (resolveContents_cases hid).imp (fun ⟨_, h⟩ => ⟨.ok (), ?_⟩) fun ⟨hm, h⟩ => ⟨hm, ?_⟩
    · show (resolveContents id w).onFailure _ = _
      rw [h]
      rfl
    · exact h.onFailure fun v => calm_close v id

end World

end DeclarationFetch
