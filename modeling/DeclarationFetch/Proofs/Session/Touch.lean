import DeclarationFetch.Proofs.Session.Timeline

/-! # What sessions touch

What is done on behalf of one session leaves the others as they are.

* `Touched id w w'`: nothing happens to other sessions, and `id` stays attached as it was.
* `SessionLoop.hears`: what a session does when it hears of a change.
* `touched_create`, `touched_fire` and `SessionLoop.Hears.touched`: what a session does touches only it.
-/

namespace DeclarationFetch

open World (Tended)

/-! ## What moves leave alone -/

structure Session.Attached (s s' : Session) : Prop where
  callbacks : s'.callbacks = s.callbacks
  host : s'.resolver.host = s.resolver.host
  cache : s'.resolver.cache = s.resolver.cache

theorem Session.Attached.refl (s : Session) : s.Attached s := ⟨rfl, rfl, rfl⟩

theorem Session.Attached.trans {s s' s'' : Session} (h : s.Attached s') (h' : s'.Attached s'') :
    s.Attached s'' :=
  ⟨h'.callbacks.trans h.callbacks, h'.host.trans h.host, h'.cache.trans h.cache⟩

/-- Nothing happens to other sessions. -/
structure Touched (id : Nat) (w w' : World) : Prop where
  sessions : w.sessions.length ≤ w'.sessions.length
  newcomer : ∀ other, other ≠ id → other < w'.sessions.length → other < w.sessions.length
  editors : w.editors.length ≤ w'.editors.length
  others : ∀ other, other ≠ id → w'.session other = w.session other
  attached : id < w.sessions.length → (w.session id).Attached (w'.session id)
  disposed : id < w.sessions.length → (w.session id).disposed = true → (w'.session id).disposed = true
  editor : id < w'.sessions.length → (w'.session id).editor < w'.editors.length ∨
    id < w.sessions.length ∧ (w'.session id).editor = (w.session id).editor
  listening : w.Listening → w'.Listening
  updates : ∀ other, other ≠ id → w'.updatesOf other = w.updatesOf other

namespace Touched

variable {id : Nat} {w w' w'' : World}

theorem of_tended (h : Tended id w w') : Touched id w w' where
  sessions := Nat.le_of_eq h.sessions.symm
  newcomer _ _ ho := h.sessions ▸ ho
  editors := Nat.le_of_eq h.editors.symm
  others := h.others
  attached _ := ⟨h.own.callbacks, h.own.host, h.own.cache⟩
  disposed _ := h.own.disposed
  editor hid := .inr ⟨h.sessions ▸ hid, h.own.editor⟩
  listening := h.listening
  updates := h.updates

theorem trans (h : Touched id w w') (h' : Touched id w' w'') : Touched id w w'' where
  sessions := Nat.le_trans h.sessions h'.sessions
  newcomer other hne ho := h.newcomer other hne (h'.newcomer other hne ho)
  editors := Nat.le_trans h.editors h'.editors
  others other ho := (h'.others other ho).trans (h.others other ho)
  attached hid := (h.attached hid).trans (h'.attached (Nat.lt_of_lt_of_le hid h.sessions))
  disposed hid hd := h'.disposed (Nat.lt_of_lt_of_le hid h.sessions) (h.disposed hid hd)
  editor hid := by
    rcases h'.editor hid with hlt | ⟨hid', he'⟩
    · exact .inl hlt
    · rcases h.editor hid' with hlt | ⟨hid, he⟩
      · exact .inl (he' ▸ Nat.lt_of_lt_of_le hlt h'.editors)
      · exact .inr ⟨hid, he'.trans he⟩
  listening hl := h'.listening (h.listening hl)
  updates other ho := (h'.updates other ho).trans (h.updates other ho)

theorem setSession {s : Session} (he : s.editor = (w.session id).editor)
    (hc : s.callbacks = (w.session id).callbacks) (hr : s.resolver = (w.session id).resolver)
    (hd : s.disposed = (w.session id).disposed) : Touched id w (w.setSession id s) where
  sessions := Nat.le_of_eq List.length_set.symm
  newcomer _ _ ho := Nat.lt_of_lt_of_eq ho List.length_set
  editors := Nat.le_refl _
  others other ho := by rw [World.session_setSession, if_neg fun h => ho h.1]
  attached _ := by
    rw [World.session_setSession]
    split
    · exact ⟨hc, congrArg Resolver.host hr, congrArg Resolver.cache hr⟩
    · exact .refl _
  disposed _ hd' := by
    rw [World.session_setSession]
    split
    · exact hd.trans hd'
    · exact hd'
  editor hid := by
    have hid' : id < w.sessions.length := by
      rw [World.setSession, List.length_set] at hid
      exact hid
    refine .inr ⟨hid', ?_⟩
    rw [World.session_setSession, if_pos ⟨rfl, hid'⟩]
    exact he
  listening := World.listening_of_kept List.length_set (fun _ => rfl) fun other => by
    rw [World.session_setSession]
    split
    · next ho => exact ho.1 ▸ ⟨he, hd⟩
    · exact ⟨rfl, rfl⟩
  updates _ _ := rfl

theorem of_eq (hs : w'.sessions = w.sessions) (he : w'.editors = w.editors)
    (hu : w'.told = w.told) : Touched id w w' := by
  have hsession : ∀ other, w'.session other = w.session other := fun other => by
    unfold World.session
    rw [hs]
  exact
    { sessions := Nat.le_of_eq (congrArg List.length hs).symm
      newcomer := fun _ _ ho => Nat.lt_of_lt_of_eq ho (congrArg List.length hs)
      editors := Nat.le_of_eq (congrArg List.length he).symm
      others := fun other _ => hsession other
      attached := fun _ => (hsession id).symm ▸ .refl _
      disposed := fun _ hd => (congrArg Session.disposed (hsession id)).trans hd
      editor := fun hid => .inr ⟨hs ▸ hid, congrArg Session.editor (hsession id)⟩
      listening := World.listening_of_kept (congrArg List.length hs)
        (fun e => by unfold World.editor; rw [he])
        fun other => ⟨congrArg Session.editor (hsession other), congrArg Session.disposed (hsession other)⟩
      updates := fun other _ => by unfold World.updatesOf; rw [hu] }

end Touched

/-! ## Hearing of a change -/

namespace SessionLoop

variable {l : SessionLoop} {id : Nat}

theorem create_fst (l : SessionLoop) (p : World.Plan) : (l.create p).1 = l.state.sessions.length := by
  show (World.attachHost p (World.attachCache p l.state).2).2.sessions.length = _
  rw [World.sessions_attachHost, World.sessions_attachCache]

/-- What a session does when it hears of a change. -/
inductive Hears (l : SessionLoop) (id : Nat) : SessionLoop → Prop
  /-- A pass is running. -/
  | passed (hm : l.state.marked id = true) : Hears l id l
  /-- The callback raises a fault. -/
  | raised {fault : Fault} (hm : l.state.marked id = false)
      (hf : (l.state.tellUpdate id .codeChanged).1 = .error fault) :
      Hears l id { l with state := (l.state.tellUpdate id .codeChanged).2 }
  /-- The timer is armed. -/
  | armed {w : World} (hm : l.state.marked id = false) (ht : Touched id l.state w)
      (hs : (w.session id).isResolving = (l.state.session id).isResolving)
      (hn : w.Owes id ↔ l.state.Owes id)
      (hp : id < l.state.sessions.length → (w.session id).pending = true) :
      Hears l id { l with state := w }
  /-- There is no delay. -/
  | atOnce {w : World} (hm : l.state.marked id = false) (ht : Touched id l.state w)
      (hs : (w.session id).isResolving = (l.state.session id).isResolving)
      (hn : w.Owes id ↔ l.state.Owes id) :
      Hears l id (fire { l with state := w } id)

/-- A trigger that starts nothing at once leaves the timer armed. -/
theorem pending_trigger {d : Debouncer} {now : Instant} (h : (d.trigger now).2 = false) :
    (d.trigger now).1.pending = true := by
  unfold Debouncer.trigger at h ⊢
  split at h
  · cases h
  · next hd =>
    rw [if_neg hd]
    rfl

theorem touched_trigger {w : World} (d : Debouncer) :
    Touched id w ({ w with turns := w.turns + 1 }.setSession id
      { w.session id with debouncer := d, turn := w.turns }) := by
  have hturn : Touched id w { w with turns := w.turns + 1 } := .of_eq rfl rfl rfl
  exact hturn.trans (.setSession rfl rfl rfl rfl)

theorem session_trigger {w : World} (hid : id < w.sessions.length) (d : Debouncer) :
    ({ w with turns := w.turns + 1 }.setSession id
      { w.session id with debouncer := d, turn := w.turns }).session id =
        { w.session id with debouncer := d, turn := w.turns } := by
  rw [World.session_setSession, if_pos ⟨rfl, hid⟩]

theorem session_setTimer (w : World) (id other : Nat) : (w.setTimer id).session other = w.session other := by
  unfold World.setTimer
  dsimp only
  split <;> rfl

theorem touched_setTimer (w : World) : Touched id w (w.setTimer id) := by
  unfold World.setTimer
  dsimp only
  split <;> exact .of_eq rfl rfl rfl

theorem hears (hid : id < l.state.sessions.length) : Hears l id (l.contentChanged id).2 := by
  unfold contentChanged
  cases hm : (l.state.session id).isResolving with
  | true => exact .passed hm
  | false =>
    have htold := World.tended_tellUpdate l.state id .codeChanged
    have hsame := World.session_tellUpdate l.state id .codeChanged
    have hraised : ∀ fault, (l.state.tellUpdate id .codeChanged).1 = .error fault →
        Hears l id { l with state := (l.state.tellUpdate id .codeChanged).2 } := fun _ h => .raised hm h
    generalize l.state.tellUpdate id .codeChanged = told at htold hsame hraised
    obtain ⟨result, w⟩ := told
    cases result with
    | error fault => exact hraised fault rfl
    | ok =>
      have hid' : id < w.sessions.length := htold.sessions.symm ▸ hid
      have hmark : (w.session id).isResolving = (l.state.session id).isResolving :=
        congrArg Session.isResolving (hsame id)
      have howes : w.Owes id ↔ l.state.Owes id := World.owes_of_session_eq (hsame id)
      have hsession := session_trigger hid' ((w.session id).debouncer.trigger w.now).1
      have htouched := (Touched.of_tended htold).trans
        (touched_trigger ((w.session id).debouncer.trigger w.now).1)
      simp only [Bool.false_eq_true, if_false]
      split
      · refine .atOnce hm htouched ?_ ?_
        · rw [hsession]
          exact hmark
        · unfold World.Owes
          rw [hsession]
          exact howes
      · next hlater =>
        refine .armed hm (htouched.trans (touched_setTimer _)) ?_ ?_ fun _ => ?_
        · rw [session_setTimer, hsession]
          exact hmark
        · unfold World.Owes
          rw [session_setTimer, hsession]
          exact howes
        · rw [session_setTimer, hsession]
          exact pending_trigger (by simpa using hlater)

end SessionLoop

/-! ## Sessions that are touched -/

theorem touched_attachCache (p : World.Plan) (w : World) (id : Nat) :
    Touched id w (World.attachCache p w).2 := by
  unfold World.attachCache
  split
  · exact .of_eq rfl rfl rfl
  · split <;> exact .of_eq rfl rfl rfl

theorem touched_attachHost (p : World.Plan) (w : World) (id : Nat) :
    Touched id w (World.attachHost p w).2 := by
  unfold World.attachHost
  split <;> exact .of_eq rfl rfl rfl

theorem session_addSession (w : World) (s : Session) (id : Nat) :
    ({ w with sessions := w.sessions ++ [s] } : World).session id =
      if id = w.sessions.length then s else w.session id := by
  unfold World.session
  rw [List.getD_eq_getElem?_getD, List.getD_eq_getElem?_getD]
  rcases Nat.lt_trichotomy id w.sessions.length with hlt | heq | hgt
  · rw [List.getElem?_append_left hlt, if_neg (Nat.ne_of_lt hlt)]
  · subst heq
    rw [List.getElem?_concat_length, if_pos rfl]
    rfl
  · have hlen : (w.sessions ++ [s]).length ≤ id := by
      rw [List.length_append, List.length_singleton]
      exact hgt
    rw [List.getElem?_eq_none hlen, List.getElem?_eq_none (Nat.le_of_lt hgt),
      if_neg (Nat.ne_of_gt hgt)]

/-- The world with one more session, which listens to its editor. -/
def World.join (w : World) (s : Session) : World :=
  ({ w with sessions := w.sessions ++ [s] } : World).mapEditor s.editor (·.listen w.sessions.length)

theorem session_join (w : World) (s : Session) (id : Nat) :
    (w.join s).session id = if id = w.sessions.length then s else w.session id :=
  session_addSession w s id

theorem sessions_join (w : World) (s : Session) :
    (w.join s).sessions.length = w.sessions.length + 1 :=
  List.length_append

theorem listening_join {w : World} {s : Session} (hd : s.disposed = false) (hl : w.Listening) :
    (w.join s).Listening := by
  intro e id hm
  have hold : id ∈ (w.editor e).listeners → id < (w.join s).sessions.length ∧
      ((w.join s).session id).editor = e ∧ ((w.join s).session id).disposed = false := fun hm => by
    obtain ⟨hid, hed, hdis⟩ := hl e id hm
    rw [session_join, if_neg (Nat.ne_of_lt hid), sessions_join]
    exact ⟨Nat.lt_succ_of_lt hid, hed, hdis⟩
  rw [World.join, World.editor_mapEditor] at hm
  split at hm
  · next hed =>
    rcases List.mem_append.mp hm with hm | hm
    · exact hold (hed.1 ▸ hm)
    · rw [List.mem_singleton] at hm
      subst hm
      rw [session_join, if_pos rfl, sessions_join]
      exact ⟨Nat.lt_succ_self _, hed.1.symm, hd⟩
  · exact hold hm

theorem touched_join (w : World) {s : Session} (he : s.editor < w.editors.length)
    (hd : s.disposed = false) : Touched w.sessions.length w (w.join s) where
  sessions := sessions_join w s ▸ Nat.le_succ _
  newcomer other hne ho := by
    rw [sessions_join] at ho
    omega
  editors := Nat.le_of_eq List.length_set.symm
  others other ho := (session_join w s other).trans (if_neg ho)
  attached h := absurd h (Nat.lt_irrefl _)
  disposed h := absurd h (Nat.lt_irrefl _)
  editor _ := by
    rw [session_join, if_pos rfl]
    exact .inl (Nat.lt_of_lt_of_eq he List.length_set.symm)
  listening := listening_join hd
  updates _ _ := rfl

theorem touched_create (l : SessionLoop) (p : World.Plan) (he : p.editor < l.state.editors.length) :
    Touched (l.create p).1 l.state (l.create p).2.2.state := by
  have hcache := touched_attachCache p l.state (l.create p).1
  have hhost := touched_attachHost p (World.attachCache p l.state).2 (l.create p).1
  refine (hcache.trans hhost).trans ?_
  exact touched_join _ (s := _) (Nat.lt_of_lt_of_le he (hcache.trans hhost).editors) rfl

theorem touched_fire (l : SessionLoop) (id : Nat) : Touched id l.state (l.fire id).state :=
  .setSession rfl rfl rfl rfl

theorem SessionLoop.Hears.touched {l l' : SessionLoop} {id : Nat} (h : SessionLoop.Hears l id l') :
    Touched id l.state l'.state := by
  cases h with
  | passed => exact .of_eq rfl rfl rfl
  | raised => exact .of_tended (World.tended_tellUpdate l.state id .codeChanged)
  | armed hm ht => exact ht
  | @atOnce w hm ht => exact ht.trans (touched_fire { l with state := w } id)

end DeclarationFetch
