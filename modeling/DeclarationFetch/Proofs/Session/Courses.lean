import DeclarationFetch.Proofs.Session.Tending

/-! # The tasks of sessions

What a task of a session does from its beginning to its end, stop by stop.

* `Course.Tends id host ending c owed w`: from stop to stop `c` tends the session, a file that goes to the host
  leaves the session owing its editor a refreshment until the end, and there it is as `ending` says.
* `World.Waits id resume`: a task that has not begun. If it is dropped nothing happens, nor where its
  session is marked; elsewhere it asks the editor for its text at once, and owes nothing if it ends well.
-/

namespace DeclarationFetch

open World (Tended)

/-! ## Courses -/

def Course.state {σ : Type} : Course σ → σ
  | .ended _ s => s
  | .waiting _ s _ => s

/-- A part of a task may leave what it owes to the rest. -/
inductive Ending where
  | carried
  | final

/-- How things stand at the end, `due` telling whether a file went to the host. -/
def Ending.Holds (id : Nat) : Ending → Except Fault Unit → Prop → World → World → Prop
  | .carried, _, due, _, w' => due → w'.Owes id
  | .final, result, due, w, w' =>
      (w.session id).options.skipRefreshAfterResolve = false → result = .ok () → due →
        w.refreshes id < w'.refreshes id

def Course.Tends (id : Nat) (host : HostRef) (ending : Ending) : Course World → Prop → World → Prop
  | .ended result w', owed, w =>
      Tended id w w' ∧ ending.Holds id result (owed ∨ w'.workspace.placed ≠ w.workspace.placed) w w'
  | .waiting _ w' resume, owed, w =>
      Tended id w w' ∧ (owed ∨ w'.workspace.placed ≠ w.workspace.placed → w'.Owes id) ∧
        ∀ thrown v, v.Seated id host → (resume thrown v).Tends id host ending (v.Owes id) v

variable {id : Nat} {host : HostRef} {ending : Ending} {result : Except Fault Unit} {owed owed' due due' : Prop}
  {w w' w'' : World}

theorem Ending.Holds.before (ht : Tended id w w') (hd : due → due')
    (h : ending.Holds id result due' w' w'') : ending.Holds id result due w w'' := by
  cases ending with
  | carried => exact fun hdue => h (hd hdue)
  | final =>
    intro hskip hok hdue
    have hskip' : (w'.session id).options.skipRefreshAfterResolve = false := by
      rw [ht.own.options]
      exact hskip
    exact Nat.lt_of_le_of_lt ht.refreshes_le (h hskip' hok (hd hdue))

/-- What was given by the second stop was given by the first or after it. -/
theorem given_after (ho : owed ∨ w'.workspace.placed ≠ w.workspace.placed → owed')
    (h : owed ∨ w''.workspace.placed ≠ w.workspace.placed) :
    owed' ∨ w''.workspace.placed ≠ w'.workspace.placed := by
  by_cases hp : w'.workspace.placed = w.workspace.placed
  · rcases h with h | h
    · exact .inl (ho (.inl h))
    · exact .inr (hp.symm ▸ h)
  · exact .inl (ho (.inr hp))

namespace Course.Tends

variable {c : Course World}

theorem tended (h : c.Tends id host ending owed w) : Tended id w c.state := by
  cases c <;> exact h.1

theorem after (ht : Tended id w w') (ho : owed ∨ w'.workspace.placed ≠ w.workspace.placed → owed')
    (h : c.Tends id host ending owed' w') : c.Tends id host ending owed w := by
  cases c with
  | ended result w'' => exact ⟨ht.trans h.1, h.2.before ht (given_after ho)⟩
  | waiting gated w'' resume => exact ⟨ht.trans h.1, fun hd => h.2.1 (given_after ho hd), h.2.2⟩

theorem after_quiet (ht : Tended id w w') (hp : w'.workspace.placed = w.workspace.placed)
    (h : c.Tends id host ending owed w') : c.Tends id host ending owed w :=
  h.after ht fun ho => ho.elim (fun ho => ho) fun hne => absurd hp hne

theorem andThen {next : Except Fault Unit → World → Course World} (hid : w.Seated id host)
    (h : c.Tends id host .carried owed w)
    (hn : ∀ result v, v.Seated id host → (next result v).Tends id host .final (v.Owes id) v) :
    (c.andThen next).Tends id host .final owed w := by
  induction c generalizing owed w with
  | ended result w' => exact (hn result w' (h.1.seated hid)).after h.1 h.2
  | waiting gated w' resume ih =>
    exact ⟨h.1, h.2.1, fun thrown v hv => ih thrown v hv (h.2.2 thrown v hv)⟩

theorem ended {f : World → World} (hf : ∀ v, Tended id v (f v) ∧ (f v).workspace.placed = v.workspace.placed)
    (h : (Course.ended result w').Tends id host .final owed w) :
    (Course.ended result (f w')).Tends id host .final owed w := by
  obtain ⟨ht, hp⟩ := hf w'
  refine ⟨h.1.trans ht, fun hskip hok hdue => ?_⟩
  rw [hp] at hdue
  exact Nat.lt_of_lt_of_le (h.2 hskip hok hdue) ht.refreshes_le

theorem closing {f : World → World} (hf : ∀ v, Tended id v (f v) ∧ (f v).workspace.placed = v.workspace.placed)
    (h : c.Tends id host .final owed w) : (c.closing f).Tends id host .final owed w := by
  unfold Course.closing
  induction c generalizing owed w with
  | ended result w' => exact h.ended hf
  | waiting gated w' resume ih =>
    exact ⟨h.1, h.2.1, fun thrown v hv => ih thrown v (h.2.2 thrown v hv)⟩

theorem onFailure {f : World → World} (hf : ∀ v, Tended id v (f v) ∧ (f v).workspace.placed = v.workspace.placed)
    (h : c.Tends id host .final owed w) : (c.onFailure f).Tends id host .final owed w := by
  unfold Course.onFailure
  induction c generalizing owed w with
  | ended result w' =>
    cases result with
    | ok => exact h
    | error fault => exact h.ended hf
  | waiting gated w' resume ih =>
    exact ⟨h.1, h.2.1, fun thrown v hv => ih thrown v (h.2.2 thrown v hv)⟩

end Course.Tends

theorem Course.tended_state_closing {f : World → World} (hf : ∀ v, Tended id v (f v)) (c : Course World) :
    Tended id c.state (c.closing f).state := by
  cases c with
  | ended result w' => exact hf w'
  | waiting gated w' resume => exact .refl w'

theorem Course.tended_state_onFailure {f : World → World} (hf : ∀ v, Tended id v (f v)) (c : Course World) :
    Tended id c.state (c.onFailure f).state := by
  cases c with
  | ended result w' =>
    cases result with
    | ok => exact .refl w'
    | error fault => exact hf w'
  | waiting gated w' resume => exact .refl w'

namespace World

/-! ## Passes -/

theorem given_owed {s s' : Resolution.Scene Workspace} (hplaced : s.env.placed = w.workspace.placed)
    (howed : owed → s.context.newImports = true) (h : Gives host s s')
    (hdue : owed ∨ s'.env.placed ≠ w.workspace.placed) : s'.context.newImports = true := by
  obtain ⟨paths, hp, hnew⟩ := h.placed
  rcases hdue with ho | hne
  · exact h.newImports (howed ho)
  · refine hnew fun hnil => hne ?_
    rw [hnil] at hp
    exact hp.trans hplaced

theorem placed_ask (w : World) (id : Nat) (request : Resolution.Request) :
    (w.ask id request).2.workspace.placed = w.workspace.placed := by
  unfold ask
  split <;> rfl

theorem placed_answer (w : World) (id : Nat) (request : Resolution.Request) (thrown : Option Fault) :
    (w.answer id request thrown).2.workspace.placed = w.workspace.placed := by
  unfold answer
  split <;> rfl

theorem course_fetch (w : World) (id : Nat) (request : Resolution.Request)
    (s : Resolution.Scene Workspace)
    (resume : Resolution.Answer → Resolution.Scene Workspace → Resolution.Step Workspace Unit) :
    course id (.fetch request s resume) w =
      .waiting ((w.putScene id s).ask id request).1 ((w.putScene id s).ask id request).2 fun thrown v =>
        course id (resume (v.answer id request thrown).1 ((v.answer id request thrown).2.scene id))
          (v.answer id request thrown).2 := rfl

/-- A pass that goes on in a scene with the world's files, with the session's options, and with the mark
of what is owed. -/
theorem course_tends (step : Resolution.Step Workspace Unit) {s : Resolution.Scene Workspace}
    (hid : w.Seated id host) (hplaced : s.env.placed = w.workspace.placed)
    (hoptions : s.options = (w.session id).options) (howed : owed → s.context.newImports = true)
    (h : step.Gives host s) : (course id step w).Tends id host .carried owed w := by
  induction step generalizing w s owed with
  | done result s' =>
    refine ⟨tended_putScene hplaced hoptions (hid.host ▸ h), fun hdue => ?_⟩
    rw [owes_putScene hid.session]
    exact given_owed hplaced howed h hdue
  | fetch request s' resume ih =>
    rw [course_fetch]
    -- The scene is put back before the question, and taken up again with the answer.
    have hput := tended_putScene hplaced hoptions (hid.host ▸ h.1)
    refine ⟨hput.trans (tended_ask _ id request), fun hdue => ?_, fun thrown v hv => ?_⟩
    · rw [placed_ask] at hdue
      rw [owes_of_session_eq (session_ask _ id request id), owes_putScene hid.session]
      exact given_owed hplaced howed h.1 hdue
    · have hanswered := tended_answer v id request thrown
      refine .after_quiet hanswered (placed_answer v id request thrown) ?_
      exact ih _ _ (s := (v.answer id request thrown).2.scene id) (hanswered.seated hv) rfl rfl
        (owes_answer v id request thrown).mpr (h.2 _ _)

theorem refreshes_refreshEditor (hid : w.Seated id host) (h : (w.refreshEditor id).1 = .ok ()) :
    w.refreshes id < (w.refreshEditor id).2.refreshes id := by
  have hrefresh : (w.editorOf id).refresh.1 = .ok () := h
  have heditor : (w.refreshEditor id).2.editorOf id = (w.editorOf id).refresh.2 := by
    show (w.mapEditor (w.session id).editor fun _ => (w.editorOf id).refresh.2).editor
      (w.session id).editor = _
    rw [editor_mapEditor, if_pos ⟨rfl, hid.editor⟩]
  unfold refreshes
  rw [heditor]
  unfold Editor.refresh at hrefresh ⊢
  split
  · next hfault =>
    rw [hfault] at hrefresh
    cases hrefresh
  · exact Nat.lt_succ_self _

theorem tended_resetNewImports (w : World) (id : Nat) :
    Tended id w (w.mapSession id fun s => { s with resolver := s.resolver.resetNewImports }) :=
  tended_setSession ⟨rfl, rfl, rfl, rfl, rfl, fun h => h, fun h => h, .inr rfl⟩ rfl

theorem refreshed_tends (hid : w.Seated id host) :
    (Course.ended (w.refreshed id).1 (w.refreshed id).2).Tends id host .final (w.Owes id) w := by
  unfold refreshed
  dsimp only
  split
  · next hnew =>
    by_cases hskip : (w.session id).options.skipRefreshAfterResolve = true
    · rw [if_pos hskip]
      refine ⟨tended_resetNewImports w id, fun hno => ?_⟩
      rw [hno] at hskip
      cases hskip
    · rw [if_neg hskip]
      have htended := tended_refreshEditor w id
      have hmore := refreshes_refreshEditor hid
      generalize w.refreshEditor id = refreshed at htended hmore
      obtain ⟨result, w'⟩ := refreshed
      cases result with
      | ok =>
        have hreset := tended_resetNewImports w' id
        exact ⟨htended.trans hreset, fun _ _ _ => Nat.lt_of_lt_of_le (hmore rfl) hreset.refreshes_le⟩
      | error fault => exact ⟨htended, fun _ hok => nomatch hok⟩
  · next hnone => exact ⟨.refl w, fun _ _ hdue => hdue.elim (absurd · hnone) fun hne => absurd rfl hne⟩

theorem finishPass_tends (hid : w.Seated id host) (result : Except Fault Unit) :
    (finishPass id result w).Tends id host .final (w.Owes id) w := by
  cases result with
  | ok => exact refreshed_tends hid
  | error fault => exact ⟨.refl w, fun _ hok => nomatch hok⟩

theorem course_pass_tends (hid : w.Seated id host) (text : String) :
    ((course id (Resolution.pass (w.session id).collaborators text
      (.directory (Path.dirname (w.editorOf id).uri)) (w.session id).options.budget (w.scene id)) w).andThen
        (finishPass id)).Tends id host .final False w := by
  have hgives := (w.session id).callbacks.pass_gives (w.session id).resolver.cache
    (w.session id).resolver.host text (.directory (Path.dirname (w.editorOf id).uri))
    (w.session id).options.budget (w.scene id)
  refine .andThen hid (course_tends _ hid (s := { w.scene id with context := {} }) rfl rfl
    False.elim (hid.host ▸ hgives)) fun result v hv => finishPass_tends hv result

theorem reads_readEditor (hid : w.Seated id host) : w.reads id < (w.readEditor id).2.reads id := by
  have heditor : (w.readEditor id).2.editorOf id = (w.editorOf id).getText.2 := by
    show (w.mapEditor (w.session id).editor fun _ => (w.editorOf id).getText.2).editor
      (w.session id).editor = _
    rw [editor_mapEditor, if_pos ⟨rfl, hid.editor⟩]
  unfold reads
  rw [heditor]
  exact Nat.lt_succ_self _

/-- If the callbacks are silent the editor is asked for its text before anything else can happen. -/
theorem passOver_tends (hid : w.Seated id host) :
    (passOver id w).Tends id host .final False w ∧
      ((w.session id).Silent → w.reads id < (passOver id w).state.reads id) := by
  have htold := tended_tellUpdate w id .resolveNewImports
  have hsilent := tellUpdate_silent w id .resolveNewImports
  have hplaced := placed_tellUpdate w id .resolveNewImports
  unfold passOver
  generalize w.tellUpdate id .resolveNewImports = told at htold hsilent hplaced
  obtain ⟨result, w'⟩ := told
  cases result with
  | error fault =>
    refine ⟨⟨htold, fun _ hok => nomatch hok⟩, fun hs => ?_⟩
    cases hsilent hs
  | ok =>
    have hid' := htold.seated hid
    have hread := tended_readEditor w' id
    have hmore := reads_readEditor hid'
    have hplaced' : (w'.readEditor id).2.workspace.placed = w'.workspace.placed := rfl
    dsimp only
    generalize w'.readEditor id = read at hread hmore hplaced'
    obtain ⟨result, v⟩ := read
    have hless : w.reads id < v.reads id := Nat.lt_of_le_of_lt htold.reads_le hmore
    cases result with
    | error fault => exact ⟨⟨htold.trans hread, fun _ hok => nomatch hok⟩, fun _ => hless⟩
    | ok text =>
      have hpass := course_pass_tends (hread.seated hid') text
      refine ⟨?_, fun _ => Nat.lt_of_lt_of_le hless hpass.tended.reads_le⟩
      exact .after_quiet (htold.trans hread) (hplaced'.trans hplaced) hpass

/-! ## Tasks that wait to begin -/

structure Waits (id : Nat) (resume : Option Fault → World → Course World) : Prop where
  dropped : ∀ fault w, resume (some fault) w = .ended (.error fault) w
  marked : ∀ w, w.marked id = true → resume none w = .ended (.ok ()) w
  tends : ∀ w host, w.Seated id host → w.marked id = false →
    (resume none w).Tends id host .final False w
  reads : ∀ w host, w.Seated id host → w.marked id = false → (w.session id).Silent →
    w.reads id < (resume none w).state.reads id

theorem placed_close (w : World) (id : Nat) : (w.close id).workspace.placed = w.workspace.placed := by
  have hclose : ∀ v : World, (v.closeSource id).workspace.placed = v.workspace.placed := fun v => by
    unfold closeSource
    dsimp only
    split <;> rfl
  refine (hclose _).trans ?_
  rw [dispose_eq]
  split <;> rfl

theorem resolveContents_marked (h : w.marked id = true) : resolveContents id w = .ended (.ok ()) w :=
  if_pos h

theorem resolveContents_free (h : w.marked id = false) :
    resolveContents id w = guarded id (passOver id) w :=
  if_neg fun hm => Bool.false_ne_true (h.symm.trans hm)

theorem guarded_passOver_tends (hid : w.Seated id host) :
    (guarded id (passOver id) w).Tends id host .final False w ∧
      ((w.session id).Silent → w.reads id < (guarded id (passOver id) w).state.reads id) := by
  have hset := tended_setResolving w id true
  obtain ⟨hpass, hreads⟩ := passOver_tends (hset.seated hid)
  refine ⟨.after_quiet hset rfl (hpass.closing fun v => ⟨tended_setResolving v id false, rfl⟩),
    fun hs => ?_⟩
  have hs' : ((w.setResolving id true).session id).Silent := fun r v => by
    rw [hset.own.callbacks]
    exact hs r v
  have hclosing := Course.tended_state_closing (fun v => tended_setResolving v id false)
    (passOver id (w.setResolving id true))
  exact Nat.lt_of_le_of_lt hset.reads_le (Nat.lt_of_lt_of_le (hreads hs') hclosing.reads_le)

theorem waits_resolveContents (id : Nat) : Waits id (Loop.unbegun (resolveContents id)) where
  dropped _ _ := rfl
  marked _ h := resolveContents_marked h
  tends w host hid h := by
    show (resolveContents id w).Tends id host .final False w
    rw [resolveContents_free h]
    exact (guarded_passOver_tends hid).1
  reads w host hid h hs := by
    show w.reads id < (resolveContents id w).state.reads id
    rw [resolveContents_free h]
    exact (guarded_passOver_tends hid).2 hs

theorem waits_firstPass (id : Nat) : Waits id (Loop.unbegun (firstPass id)) where
  dropped _ _ := rfl
  marked w h := by
    show (resolveContents id w).onFailure _ = _
    rw [resolveContents_marked h]
    rfl
  tends w host hid h := by
    show ((resolveContents id w).onFailure _).Tends id host .final False w
    rw [resolveContents_free h]
    exact (guarded_passOver_tends hid).1.onFailure fun v => ⟨tended_close v id, placed_close v id⟩
  reads w host hid h hs := by
    show w.reads id < ((resolveContents id w).onFailure _).state.reads id
    rw [resolveContents_free h]
    have hclose := Course.tended_state_onFailure (fun v => tended_close v id)
      (guarded id (passOver id) w)
    exact Nat.lt_of_lt_of_le ((guarded_passOver_tends hid).2 hs) hclose.reads_le

end World

end DeclarationFetch
