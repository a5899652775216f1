import DeclarationFetch.Proofs.Session.Deeds

/-! # Runs

What the loop runs, and what an edit leads to, are among the things that can happen in a timeline.

* `Timeline.runs`: tasks that go on one after another. `Timeline.settle`: so the loop that runs everything that
  is ready.
* `Timeline.edit`: an editor changes, and all who listen to it hear of that in turn, up to the first that
  raises a fault.
-/

namespace DeclarationFetch

variable {m : Stage}

theorem Sound.exists_owner (hm : Sound m) {task : Nat} {resume : Option Fault → World → Course World}
    (hp : (task, resume) ∈ m.loop.pending) : ∃ id, m.ledger.owners[task]? = some id := by
  have hlt : task < m.ledger.owners.length := hm.guarded.owners.symm ▸ hm.guarded.lt_of_pending hp
  exact ⟨_, List.getElem?_eq_getElem hlt⟩

theorem Timeline.runs (hm : Timeline m) {l : SessionLoop} (h : Loop.Runs m.loop l) :
    ∃ m', Later m m' ∧ m'.loop = l := by
  induction h with
  | refl => exact ⟨m, .refl, rfl⟩
  | tail _ hstep ih =>
    obtain ⟨m', hlater, rfl⟩ := ih
    cases hstep with
    | of_mem hp =>
      obtain ⟨id, ho⟩ := (hm.later hlater).sound.exists_owner hp
      exact ⟨_, hlater.tail (.deed id (.wentOn ho hp none)), rfl⟩

theorem Timeline.settle (hm : Timeline m) : ∃ m', Later m m' ∧ m'.loop = Loop.settle m.loop :=
  hm.runs (Loop.runs_settle hm.sound.guarded.distinct)

theorem Sound.tellChanged {ids rest : List Nat} (hm : Sound m)
    (hids : ∀ id ∈ ids, id < m.world.sessions.length) (hh : m.hearing = ids ++ rest) :
    ∃ m', Later m m' ∧ m'.loop = (m.loop.tellChanged ids).2 := by
  induction ids generalizing m with
  | nil => exact ⟨m, .refl, rfl⟩
  | cons id ids ih =>
    have hid := hids id (List.mem_cons_self ..)
    have hheard : Deed id m (m.heard id) := .heard hid (hh ▸ List.mem_cons_self ..)
    have hsound := hheard.sound hm
    have hleft : (m.heard id).hearing = ids ++ rest := by
      show m.hearing.erase id = _
      rw [hh, List.cons_append, List.erase_cons_head]
    have hloop : (m.heard id).loop = (m.loop.contentChanged id).2 := rfl
    unfold SessionLoop.tellChanged
    generalize m.loop.contentChanged id = told at hloop
    obtain ⟨result, l⟩ := told
    obtain rfl : (m.heard id).loop = l := hloop
    cases result with
    | error fault => exact ⟨_, .single (.deed id hheard), rfl⟩
    | ok =>
      have hsessions := (hheard.touched hm).sessions
      obtain ⟨m', hlater, hloop'⟩ := ih hsound
        (fun other ho => Nat.lt_of_lt_of_le (hids other (List.mem_cons_of_mem _ ho)) hsessions) hleft
      exact ⟨m', .head (.deed id hheard) hlater, hloop'⟩

theorem Timeline.edit (hm : Timeline m) (e : Nat) (text : String) :
    ∃ m', Later m m' ∧ m'.loop = m.loop.edit e text := by
  let changed : Stage := { m with loop := m.loop.setText e text }
  let notified : Stage := { changed with hearing := (changed.world.editor e).listeners ++ m.hearing }
  have hchanged : Move m changed := .setText m e text
  have hnotified : Move changed notified := .notified e
  have hsound : Sound notified := hnotified.sound (hchanged.sound hm.sound)
  have hids : ∀ id ∈ (changed.world.editor e).listeners, id < notified.world.sessions.length :=
    fun id ho => (hsound.listening e id ho).1
  obtain ⟨m', hlater, hloop⟩ := hsound.tellChanged hids rfl
  exact ⟨m', .head hchanged (.head hnotified hlater), hloop⟩

end DeclarationFetch
