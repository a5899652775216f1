import DeclarationFetch.Proofs.Session.Guard
import DeclarationFetch.Proofs.Session.Placing

/-! # What a task does to the world

A task of a session from stop to stop, whatever others have done to the world in between.

* `World.Tended id w w'`: no other session is touched, nobody comes to listen, files go to the host of the
  session, and the session itself stays attached as it was.
* `Course.Tends id last c owed w`: `c` tends the session from stop to stop, and where a file was given to
  the host the session owes its editor a refreshment until the end, at which `last` holds.
* `World.Waits id resume`: what a task that has not begun does when it goes on. Unless its session is
  marked it asks the editor for its text at once, and if it ends without a fault nothing is owed.
-/

namespace DeclarationFetch

/-! ## Sessions -/

namespace Session

def Silent (s : Session) : Prop := ∀ r w, s.callbacks r w = none

def pending (s : Session) : Bool := s.debouncer.pending

/-- The session after it was disposed. -/
def letGo (s : Session) : Session :=
  { s with subscription := s.subscription.dispose.1, debouncer := s.debouncer.cancel }

/-- A session stays attached as it was. It may have been disposed, and nothing arms its timer. -/
structure Keeps (s s' : Session) : Prop where
  editor : s'.editor = s.editor
  callbacks : s'.callbacks = s.callbacks
  host : s'.resolver.host = s.resolver.host
  cache : s'.resolver.cache = s.resolver.cache
  options : s'.options = s.options
  disposed : s.disposed = true → s'.disposed = true
  unarmed : s'.pending = true → s.pending = true
  armed : s'.disposed = true ∨ s'.pending = s.pending

theorem Keeps.refl (s : Session) : s.Keeps s :=
  ⟨rfl, rfl, rfl, rfl, rfl, id, id, .inr rfl⟩

theorem Keeps.trans {s s' s'' : Session} (h : s.Keeps s') (h' : s'.Keeps s'') : s.Keeps s'' where
  editor := h'.editor.trans h.editor
  callbacks := h'.callbacks.trans h.callbacks
  host := h'.host.trans h.host
  cache := h'.cache.trans h.cache
  options := h'.options.trans h.options
  disposed hd := h'.disposed (h.disposed hd)
  unarmed hp := h.unarmed (h'.unarmed hp)
  armed := by
    rcases h'.armed with hd | hp'
    · exact .inl hd
    · rcases h.armed with hd | hp
      · exact .inl (h'.disposed hd)
      · exact .inr (hp'.trans hp)

end Session

namespace World

variable {w w' w'' : World} {id : Nat} {host : HostRef}

/-! ## Worlds -/

/-- The session is there with its editor, and has this host. -/
structure Seated (w : World) (id : Nat) (host : HostRef) : Prop where
  session : id < w.sessions.length
  editor : (w.session id).editor < w.editors.length
  host : (w.session id).resolver.host = host

/-- The host of the session got something for which the editor was not refreshed. -/
def Owes (w : World) (id : Nat) : Prop := (w.session id).resolver.newImports = true

def reads (w : World) (id : Nat) : Nat := (w.editorOf id).reads

def refreshes (w : World) (id : Nat) : Nat := (w.editorOf id).refreshes

def Report.update? : Report → Option Update
  | .update u => some u
  | _ => none

def updatesOf (w : World) (id : Nat) : List Update :=
  (w.told.filter fun entry => entry.1 = id).filterMap fun entry => Report.update? entry.2

/-- Nobody listens but sessions that are there and not disposed, each to its own editor. -/
def Listening (w : World) : Prop := ∀ e id, id ∈ (w.editor e).listeners →
  id < w.sessions.length ∧ (w.session id).editor = e ∧ (w.session id).disposed = false

structure Tended (id : Nat) (w w' : World) : Prop where
  sessions : w'.sessions.length = w.sessions.length
  editors : w'.editors.length = w.editors.length
  others : ∀ other, other ≠ id → w'.session other = w.session other
  own : (w.session id).Keeps (w'.session id)
  listening : w.Listening → w'.Listening
  reads : ∀ e, (w.editor e).reads ≤ (w'.editor e).reads
  refreshes : ∀ e, (w.editor e).refreshes ≤ (w'.editor e).refreshes
  updates : ∀ other, other ≠ id → w'.updatesOf other = w.updatesOf other
  placed : ∃ paths : List String, w'.workspace.placed =
    paths.map ((w.session id).resolver.host, ·) ++ w.workspace.placed

namespace Tended

theorem refl (w : World) : Tended id w w where
  sessions := rfl
  editors := rfl
  others _ _ := rfl
  own := .refl _
  listening h := h
  reads _ := Nat.le_refl _
  refreshes _ := Nat.le_refl _
  updates _ _ := rfl
  placed := ⟨[], rfl⟩

theorem trans (h : Tended id w w') (h' : Tended id w' w'') : Tended id w w'' where
  sessions := h'.sessions.trans h.sessions
  editors := h'.editors.trans h.editors
  others other ho := (h'.others other ho).trans (h.others other ho)
  own := h.own.trans h'.own
  listening hl := h'.listening (h.listening hl)
  reads e := Nat.le_trans (h.reads e) (h'.reads e)
  refreshes e := Nat.le_trans (h.refreshes e) (h'.refreshes e)
  updates other ho := (h'.updates other ho).trans (h.updates other ho)
  placed := by
    obtain ⟨paths, hp⟩ := h.placed
    obtain ⟨paths', hp'⟩ := h'.placed
    refine ⟨paths' ++ paths, ?_⟩
    rw [hp', hp, h.own.host, List.map_append, List.append_assoc]

theorem seated (h : Tended id w w') (hid : w.Seated id host) : w'.Seated id host where
  session := h.sessions.symm ▸ hid.session
  editor := by
    rw [h.own.editor, h.editors]
    exact hid.editor
  host := h.own.host.trans hid.host

theorem reads_le (h : Tended id w w') : w.reads id ≤ w'.reads id := by
  unfold World.reads editorOf
  rw [h.own.editor]
  exact h.reads _

theorem refreshes_le (h : Tended id w w') : w.refreshes id ≤ w'.refreshes id := by
  unfold World.refreshes editorOf
  rw [h.own.editor]
  exact h.refreshes _

end Tended

/-! ## Single changes -/

theorem editor_mapEditor (w : World) (e : Nat) (f : Editor → Editor) (other : Nat) :
    (w.mapEditor e f).editor other =
      if other = e ∧ e < w.editors.length then f (w.editor e) else w.editor other := by
  unfold editor mapEditor
  rw [List.getD_eq_getElem?_getD, List.getD_eq_getElem?_getD, List.getElem?_set]
  by_cases ho : e = other
  · subst ho
    by_cases he : e < w.editors.length <;> simp [he, editor]
  · simp [ho, Ne.symm ho]

theorem listening_of_kept (hs : w'.sessions.length = w.sessions.length)
    (hl : ∀ e, (w'.editor e).listeners = (w.editor e).listeners)
    (hk : ∀ id, (w'.session id).editor = (w.session id).editor ∧
      (w'.session id).disposed = (w.session id).disposed)
    (h : w.Listening) : w'.Listening := by
  intro e id hm
  rw [hl] at hm
  obtain ⟨hid, he, hd⟩ := h e id hm
  exact ⟨hs.symm ▸ hid, (hk id).1.trans he, (hk id).2.trans hd⟩

theorem tended_of_eq (hs : w'.sessions = w.sessions) (he : w'.editors = w.editors)
    (hu : ∀ other, other ≠ id → w'.updatesOf other = w.updatesOf other)
    (hp : ∃ paths : List String, w'.workspace.placed =
      paths.map ((w.session id).resolver.host, ·) ++ w.workspace.placed) : Tended id w w' := by
  have hsession : ∀ other, w'.session other = w.session other := fun other => by
    unfold session
    rw [hs]
  have heditor : ∀ e, w'.editor e = w.editor e := fun e => by
    unfold editor
    rw [he]
  exact
    { sessions := congrArg List.length hs
      editors := congrArg List.length he
      others := fun other _ => hsession other
      own := (hsession id).symm ▸ .refl _
      listening := fun h => listening_of_kept (congrArg List.length hs)
        (fun e => congrArg Editor.listeners (heditor e))
        (fun other => ⟨congrArg Session.editor (hsession other),
          congrArg Session.disposed (hsession other)⟩) h
      reads := fun e => Nat.le_of_eq (congrArg Editor.reads (heditor e)).symm
      refreshes := fun e => Nat.le_of_eq (congrArg Editor.refreshes (heditor e)).symm
      updates := hu
      placed := hp }

theorem tended_setSession {s : Session} (h : (w.session id).Keeps s)
    (hd : s.disposed = (w.session id).disposed) : Tended id w (w.setSession id s) := by
  have hown : (w.session id).Keeps ((w.setSession id s).session id) := by
    rw [session_setSession]
    split
    · exact h
    · exact .refl _
  have hothers : ∀ other, other ≠ id → (w.setSession id s).session other = w.session other :=
    fun other ho => by rw [session_setSession, if_neg fun he => ho he.1]
  have hkept : ∀ other, ((w.setSession id s).session other).editor = (w.session other).editor ∧
      ((w.setSession id s).session other).disposed = (w.session other).disposed := fun other => by
    rw [session_setSession]
    split
    · next he => exact he.1 ▸ ⟨h.editor, hd⟩
    · exact ⟨rfl, rfl⟩
  exact
    { sessions := List.length_set
      editors := rfl
      others := hothers
      own := hown
      listening := listening_of_kept List.length_set (fun _ => rfl) hkept
      reads := fun _ => Nat.le_refl _
      refreshes := fun _ => Nat.le_refl _
      updates := fun _ _ => rfl
      placed := ⟨[], rfl⟩ }

theorem tended_mapEditor {e : Nat} {f : Editor → Editor}
    (hl : (f (w.editor e)).listeners = (w.editor e).listeners)
    (hr : (w.editor e).reads ≤ (f (w.editor e)).reads)
    (hf : (w.editor e).refreshes ≤ (f (w.editor e)).refreshes) : Tended id w (w.mapEditor e f) where
  sessions := rfl
  editors := List.length_set
  others _ _ := rfl
  own := .refl _
  listening := listening_of_kept rfl (fun other => by
    rw [editor_mapEditor]
    split
    · next he => exact he.1 ▸ hl
    · rfl) fun _ => ⟨rfl, rfl⟩
  reads other := by
    rw [editor_mapEditor]
    split
    · next he => exact he.1 ▸ hr
    · exact Nat.le_refl _
  refreshes other := by
    rw [editor_mapEditor]
    split
    · next he => exact he.1 ▸ hf
    · exact Nat.le_refl _
  updates _ _ := rfl
  placed := ⟨[], rfl⟩

/-- What is gathered for a session is no report of another one. -/
theorem updatesOf_gather (w : World) {other : Nat} (ho : other ≠ id) :
    (w.gather id).updatesOf other = w.updatesOf other := by
  have hnone : (w.workspace.reports.map fun report => (id, report)).filter
      (fun entry => entry.1 = other) = [] := by
    rw [List.filter_eq_nil_iff]
    intro entry hm
    obtain ⟨report, _, rfl⟩ := List.mem_map.mp hm
    simpa using Ne.symm ho
  unfold updatesOf gather
  dsimp only
  rw [List.filter_append, hnone, List.nil_append]

theorem tended_tellUpdate (w : World) (id : Nat) (u : Update) : Tended id w (w.tellUpdate id u).2 := by
  unfold tellUpdate report
  dsimp only
  split
  · refine tended_of_eq rfl rfl (fun other ho => ?_) ⟨[], ?_⟩
    · exact updatesOf_gather _ ho
    · exact Callbacks.placed_tell _ _ _
  · exact .refl w

theorem session_report (w : World) (id : Nat) (listened : Handlers → Bool) (r : Report) (other : Nat) :
    (w.report id listened r).2.session other = w.session other := by
  unfold report
  dsimp only
  split <;> rfl

theorem session_tellUpdate (w : World) (id : Nat) (u : Update) (other : Nat) :
    (w.tellUpdate id u).2.session other = w.session other := session_report w id _ _ other

theorem tellUpdate_silent (w : World) (id : Nat) (u : Update) (h : (w.session id).Silent) :
    (w.tellUpdate id u).1 = .ok () := by
  unfold tellUpdate report
  dsimp only
  split
  · unfold Callbacks.tell
    rw [h]
    rfl
  · rfl

theorem placed_tellUpdate (w : World) (id : Nat) (u : Update) :
    (w.tellUpdate id u).2.workspace.placed = w.workspace.placed := by
  unfold tellUpdate report
  dsimp only
  split
  · exact Callbacks.placed_tell _ _ _
  · rfl

theorem tended_readEditor (w : World) (id : Nat) : Tended id w (w.readEditor id).2 :=
  tended_mapEditor (e := (w.session id).editor) (f := fun _ => (w.editorOf id).getText.2) rfl
    (Nat.le_succ _) (Nat.le_refl _)

theorem tended_refreshEditor (w : World) (id : Nat) : Tended id w (w.refreshEditor id).2 := by
  have hrefresh : (w.editorOf id).refresh.2.listeners = (w.editorOf id).listeners ∧
      (w.editorOf id).refresh.2.reads = (w.editorOf id).reads ∧
      (w.editorOf id).refreshes ≤ (w.editorOf id).refresh.2.refreshes := by
    unfold Editor.refresh
    split
    · exact ⟨rfl, rfl, Nat.le_refl _⟩
    · exact ⟨rfl, rfl, Nat.le_succ _⟩
  exact tended_mapEditor (e := (w.session id).editor) (f := fun _ => (w.editorOf id).refresh.2)
    hrefresh.1 (Nat.le_of_eq hrefresh.2.1.symm) hrefresh.2.2

theorem tended_setResolving (w : World) (id : Nat) (isResolving : Bool) :
    Tended id w (w.setResolving id isResolving) :=
  tended_setSession ⟨rfl, rfl, rfl, rfl, rfl, fun h => h, fun h => h, .inr rfl⟩ rfl

theorem tended_ask (w : World) (id : Nat) (request : Resolution.Request) :
    Tended id w (w.ask id request).2 := by
  unfold ask
  split
  · exact tended_of_eq rfl rfl (fun _ _ => rfl) ⟨[], rfl⟩
  · exact .refl w

theorem tended_answer (w : World) (id : Nat) (request : Resolution.Request) (thrown : Option Fault) :
    Tended id w (w.answer id request thrown).2 := by
  unfold answer
  split
  · exact .refl w
  · exact .refl w
  · next client _ =>
    generalize client.fetch request w.web = fetched
    obtain ⟨answer, client, web⟩ := fetched
    have hweb : Tended id w { w with web } := tended_of_eq rfl rfl (fun _ _ => rfl) ⟨[], rfl⟩
    exact hweb.trans (tended_setSession ⟨rfl, rfl, rfl, rfl, rfl, fun h => h, fun h => h, .inr rfl⟩ rfl)

/-- A pass comes to a stop after it has given files to the host of its session. -/
theorem tended_putScene {s s' : Resolution.Scene Workspace}
    (hs : s.env.placed = w.workspace.placed) (ho : s.options = (w.session id).options)
    (h : Gives (w.session id).resolver.host s s') : Tended id w (w.putScene id s') := by
  obtain ⟨paths, hp, _⟩ := h.placed
  have hgather : Tended id w ({ w with workspace := s'.env }.gather id) := by
    refine tended_of_eq rfl rfl (fun other ho => updatesOf_gather _ ho) ⟨paths, ?_⟩
    rw [← hs]
    exact hp
  refine hgather.trans (tended_setSession ⟨rfl, rfl, rfl, rfl, ?_, fun h => h, fun h => h, .inr rfl⟩ rfl)
  exact h.options.trans ho

theorem owes_putScene (hid : id < w.sessions.length) (s : Resolution.Scene Workspace) :
    (w.putScene id s).Owes id ↔ s.context.newImports = true := by
  unfold Owes putScene mapSession
  rw [session_setSession, if_pos ⟨rfl, hid⟩]
  rfl

theorem owes_of_session_eq (h : w'.session id = w.session id) : w'.Owes id ↔ w.Owes id := by
  unfold Owes
  rw [h]

theorem session_ask (w : World) (id : Nat) (request : Resolution.Request) (other : Nat) :
    (w.ask id request).2.session other = w.session other := by
  unfold ask
  split <;> rfl

theorem owes_answer (w : World) (id : Nat) (request : Resolution.Request) (thrown : Option Fault) :
    (w.answer id request thrown).2.Owes id ↔ w.Owes id := by
  unfold answer
  split
  · exact Iff.rfl
  · exact Iff.rfl
  · next client _ =>
    generalize client.fetch request w.web = fetched
    obtain ⟨answer, client, web⟩ := fetched
    unfold Owes mapSession
    rw [session_setSession]
    split <;> rfl

/-! ## Letting go -/

theorem dispose_eq (w : World) (id : Nat) :
    w.dispose id = if (w.session id).disposed then w.setSession id (w.session id).letGo else
      (w.setSession id (w.session id).letGo).mapEditor (w.session id).editor (·.release id) := by
  unfold dispose Session.disposed Subscription.dispose
  dsimp only
  cases (w.session id).subscription.disposed <;> rfl

theorem session_dispose (w : World) (id other : Nat) :
    (w.dispose id).session other =
      if other = id ∧ id < w.sessions.length then (w.session id).letGo else w.session other := by
  rw [dispose_eq]
  split <;> exact session_setSession w id _ other

theorem sessions_length_dispose (w : World) (id : Nat) :
    (w.dispose id).sessions.length = w.sessions.length := by
  rw [dispose_eq]
  split <;> exact List.length_set

theorem editor_dispose (w : World) (id e : Nat) :
    (w.dispose id).editor e = w.editor e ∨ (w.dispose id).editor e = (w.editor e).release id := by
  rw [dispose_eq]
  split
  · exact .inl rfl
  · rw [editor_mapEditor]
    split
    · next he => exact .inr (he.1 ▸ rfl)
    · exact .inl rfl

theorem lt_of_listens {e : Nat} (h : id ∈ (w.editor e).listeners) : e < w.editors.length := by
  refine Nat.lt_of_not_le fun hge => ?_
  unfold editor at h
  rw [List.getD_eq_getElem?_getD, List.getElem?_eq_none hge] at h
  exact List.not_mem_nil h

theorem not_listens_dispose (h : w.Listening) (e : Nat) :
    id ∉ ((w.dispose id).editor e).listeners := by
  intro hm
  rw [dispose_eq] at hm
  split at hm
  · next hd =>
    obtain ⟨_, _, hlive⟩ := h e id hm
    rw [hd] at hlive
    cases hlive
  · rw [editor_mapEditor] at hm
    split at hm
    · have hne := (List.mem_filter.mp hm).2
      simp at hne
    · next he =>
      obtain ⟨_, hown, _⟩ := h e id hm
      refine he ⟨hown.symm, ?_⟩
      rw [hown]
      exact lt_of_listens hm

theorem listening_dispose (w : World) (id : Nat) (h : w.Listening) : (w.dispose id).Listening := by
  intro e other hm
  have hne : other ≠ id := fun he => not_listens_dispose h e (he ▸ hm)
  have hm' : other ∈ (w.editor e).listeners := by
    rcases editor_dispose w id e with he | he
    · rwa [he] at hm
    · rw [he] at hm
      exact (List.mem_filter.mp hm).1
  rw [session_dispose, if_neg fun he => hne he.1, sessions_length_dispose]
  exact h e other hm'

theorem tended_dispose (w : World) (id : Nat) : Tended id w (w.dispose id) := by
  have hkeeps : (w.session id).Keeps (w.session id).letGo :=
    ⟨rfl, rfl, rfl, rfl, rfl, fun _ => rfl, fun h => absurd h Bool.false_ne_true, .inl rfl⟩
  have heditor : ∀ e, (w.editor e).reads ≤ ((w.dispose id).editor e).reads ∧
      (w.editor e).refreshes ≤ ((w.dispose id).editor e).refreshes := fun e => by
    rcases editor_dispose w id e with he | he <;> rw [he]
    · exact ⟨Nat.le_refl _, Nat.le_refl _⟩
    · exact ⟨Nat.le_refl _, Nat.le_refl _⟩
  exact
    { sessions := sessions_length_dispose w id
      editors := by
        rw [dispose_eq]
        split
        · rfl
        · exact List.length_set
      others := fun other ho => by rw [session_dispose, if_neg fun he => ho he.1]
      own := by
        rw [session_dispose]
        split
        · exact hkeeps
        · exact .refl _
      listening := listening_dispose w id
      reads := fun e => (heditor e).1
      refreshes := fun e => (heditor e).2
      updates := fun _ _ => by
        rw [dispose_eq]
        split <;> rfl
      placed := ⟨[], by
        rw [dispose_eq]
        split <;> rfl⟩ }

theorem tended_closeSource (w : World) (id : Nat) : Tended id w (w.closeSource id) := by
  unfold closeSource
  dsimp only
  split
  · next client _ _ =>
    have hweb : Tended id w { w with web := (client.close w.web).2 } :=
      tended_of_eq rfl rfl (fun _ _ => rfl) ⟨[], rfl⟩
    exact hweb.trans (tended_setSession ⟨rfl, rfl, rfl, rfl, rfl, fun h => h, fun h => h, .inr rfl⟩ rfl)
  · exact .refl w

theorem tended_close (w : World) (id : Nat) : Tended id w (w.close id) :=
  (tended_dispose w id).trans (tended_closeSource _ id)

end World

end DeclarationFetch
