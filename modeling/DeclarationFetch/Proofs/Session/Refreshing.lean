import DeclarationFetch.Proofs.Session.Deeds

/-! # Refreshments

When the editor of a session is refreshed for what its host gets.

* `Occurrence.Gives id task`: a task of the session gives the host a file. `Occurrence.Settles id task`: the
  editor of the session is refreshed, or that task fails.
* `Repaid id task`: the invariant. All that the task gave is settled, or the task is in flight and the session
  owes its editor a refreshment.
* `change_refreshed`: so where no pass is in flight all that the host got is settled.
* `Broken`: what a pass that failed gave is not made up for. The next pass ends well, gives the host nothing,
  and leaves the editor as it is.
-/

namespace DeclarationFetch

def Occurrence.Gives (id task : Nat) (o : Occurrence) : Prop :=
  ∃ before after result, o = .ran id task before after result ∧
    after.workspace.placed ≠ before.workspace.placed

/-- A task of the session ends well and refreshes its editor. -/
def Occurrence.Refreshes (id : Nat) (o : Occurrence) : Prop :=
  ∃ task before after, o = .ran id task before after (some (.ok ())) ∧
    before.refreshes id < after.refreshes id

def Occurrence.Fails (id task : Nat) (o : Occurrence) : Prop :=
  ∃ before after fault, o = .ran id task before after (some (.error fault))

def Occurrence.Settles (id task : Nat) (o : Occurrence) : Prop := o.Refreshes id ∨ o.Fails id task

/-- The tasks of the session go on with the option to skip refreshments off. -/
def Stage.Refreshing (m : Stage) (id : Nat) : Prop :=
  ∀ task before after result, .ran id task before after result ∈ m.log →
    (before.session id).options.skipRefreshAfterResolve = false

def Stage.Settled (m : Stage) (id task : Nat) : Prop :=
  Followed (Occurrence.Gives id task) (Occurrence.Settles id task) m.log

def Repaid (id task : Nat) (m : Stage) : Prop :=
  m.Settled id task ∨ m.InFlight id task ∧ m.world.Owes id

variable {id task : Nat} {m m' : Stage}

theorem Occurrence.not_gives_of_session {o : Occurrence} (h : o.session ≠ id) : ¬ o.Gives id task := by
  rintro ⟨before, after, result, rfl, _⟩
  exact h rfl

theorem SessionLoop.owes_fire (l : SessionLoop) (id : Nat) :
    (l.fire id).state.Owes id ↔ l.state.Owes id := by
  have hkept : ((l.fire id).state.session id).resolver = (l.state.session id).resolver := by
    show ((l.state.setSession id _).session id).resolver = _
    rw [World.session_setSession]
    split <;> rfl
  unfold World.Owes
  rw [hkept]

theorem SessionLoop.Hears.owes {l l' : SessionLoop} (h : SessionLoop.Hears l id l') :
    l'.state.Owes id ↔ l.state.Owes id := by
  cases h with
  | passed => exact Iff.rfl
  | raised => exact World.owes_of_session_eq (World.session_tellUpdate l.state id .codeChanged id)
  | armed _ _ _ hn => exact hn
  | atOnce _ _ _ hn => exact (SessionLoop.owes_fire _ id).trans hn

namespace Repaid

theorem keep (hi : Repaid id task m)
    (hlog : m'.log = m.log ∨ ∃ o, m'.log = o :: m.log ∧ ¬ o.Gives id task)
    (hflight : m.InFlight id task → m.world.Owes id → m'.InFlight id task ∧ m'.world.Owes id) :
    Repaid id task m' := by
  rcases hi with hsettled | ⟨hf, ho⟩
  · refine .inl ?_
    unfold Stage.Settled
    rcases hlog with hlog | ⟨o, hlog, hnot⟩
    · exact hlog ▸ hsettled
    · exact hlog ▸ .cons hnot hsettled
  · exact .inr (hflight hf ho)

theorem aside (h : Aside id m m') (hi : Repaid id task m) : Repaid id task m' := by
  refine hi.keep ?_ fun hf ho => ⟨(h.inFlight task).mpr hf, h.same.newImports.trans ho⟩
  rcases h.log with hlog | ⟨o, hlog, hne⟩
  · exact .inl hlog
  · exact .inr ⟨o, hlog, Occurrence.not_gives_of_session hne⟩

/-- The task itself goes on: what it gave or owed before is owed until it ends. -/
theorem went {c : Course World} {owed : Prop}
    (ht : c.Tends id (m.session id).resolver.host .final owed m.world)
    (ho : m.ledger.owners[task]? = some id) (hr : Loop.task? m.loop task = some .running)
    (hskip : (m.session id).options.skipRefreshAfterResolve = false)
    (hi : m.Settled id task ∨ owed) {thrown : Option Fault} (hran : thrown = none ∨ task ∈ m.ledger.begun) :
    Repaid id task (m.wentOn id task thrown c) := by
  have hlog : (m.wentOn id task thrown c).log = .ran id task m.world c.state c.result? :: m.log :=
    congrArg (· :: m.log) (m.occurrence_ran id c hran)
  by_cases hdue : owed ∨ c.state.workspace.placed ≠ m.world.workspace.placed
  · cases c with
    | ended result w =>
      refine .inl ?_
      unfold Stage.Settled
      rw [hlog]
      cases result with
      | ok =>
        have hmore : m.world.refreshes id < w.refreshes id := ht.2 hskip rfl hdue
        exact .inl (.inl ⟨task, m.world, w, rfl, hmore⟩)
      | error fault => exact .inl (.inr ⟨m.world, w, fault, rfl⟩)
    | waiting gated w resume =>
      exact .inr ⟨(Stage.inFlight_wentOn ho hr).mpr (.inr ⟨rfl, rfl, rfl⟩), ht.2.1 hdue⟩
  · obtain ⟨hnone, hsame⟩ := not_or.mp hdue
    refine .inl ?_
    unfold Stage.Settled
    rw [hlog]
    refine .cons ?_ (hi.resolve_right hnone)
    rintro ⟨before, after, result, he, hgiven⟩
    cases he
    exact hsame hgiven

theorem wentOn_self {thrown : Option Fault} {c : Course World}
    (ho : m.ledger.owners[task]? = some id) (hr : Loop.task? m.loop task = some .running)
    (h : WentOn m id task thrown c)
    (hskip : (thrown = none ∨ task ∈ m.ledger.begun) →
      (m.session id).options.skipRefreshAfterResolve = false)
    (hi : Repaid id task m) : Repaid id task (m.wentOn id task thrown c) := by
  have hfresh : task ∉ m.ledger.begun → m.Settled id task := fun hu =>
    hi.resolve_right fun hf => hu hf.1.begun
  cases h with
  | dropped fault hu =>
    refine .inl (.cons ?_ (hfresh hu))
    rw [m.occurrence_dropped id fault _ hu]
    rintro ⟨_, _, _, he, _⟩
    cases he
  | passed hu hmarked =>
    refine .inl (.cons ?_ (hfresh hu))
    rw [m.occurrence_ran id _ (.inl rfl)]
    rintro ⟨before, after, result, he, hgiven⟩
    cases he
    exact hgiven rfl
  | began hu hmarked ht hreads => exact went ht ho hr (hskip (.inl rfl)) (.inl (hfresh hu)) (.inl rfl)
  | resumed thrown hb ht => exact went ht ho hr (hskip (.inr hb)) (hi.imp_right And.right) (.inr hb)

/-- Another task of the session goes on. While one is in flight the others do nothing. -/
theorem wentOn_other {other : Nat} {thrown : Option Fault} {c : Course World} (hm : Sound m)
    (ho : m.ledger.owners[other]? = some id) (hr : Loop.task? m.loop other = some .running)
    (h : WentOn m id other thrown c) (htask : other ≠ task) (hi : Repaid id task m) :
    Repaid id task (m.wentOn id other thrown c) := by
  refine hi.keep (.inr ⟨_, rfl, ?_⟩) fun hf howes => ?_
  · rintro ⟨_, _, _, he, _⟩
    rcases m.occurrence_cases id other thrown c with hd | hran
    · cases hd.symm.trans he
    · cases hran.symm.trans he
      exact htask rfl
  · have hflight : (m.wentOn id other thrown c).InFlight id task :=
      (Stage.inFlight_wentOn ho hr).mpr (.inl ⟨fun he => htask he.symm, hf⟩)
    have hmarked := (hm.guarded.marked id).mpr ⟨task, hf⟩
    cases h with
    | dropped fault hu => exact ⟨hflight, howes⟩
    | passed hu _ => exact ⟨hflight, howes⟩
    | began hu hfree =>
      rw [show m.world.marked id = true from hmarked] at hfree
      cases hfree
    | resumed thrown hb ht => exact absurd (hm.guarded.alone id other task ⟨ho, hb, hr⟩ hf) htask

theorem wentOn {other : Nat} {thrown : Option Fault} {c : Course World} (hm : Sound m)
    (ho : m.ledger.owners[other]? = some id) (hr : Loop.task? m.loop other = some .running)
    (h : WentOn m id other thrown c) (hskip : (m.wentOn id other thrown c).Refreshing id)
    (hi : Repaid id task m) : Repaid id task (m.wentOn id other thrown c) := by
  by_cases htask : other = task
  · subst htask
    refine hi.wentOn_self ho hr h fun hran => hskip other m.world c.state c.result? ?_
    rw [← m.occurrence_ran id c hran]
    exact List.mem_cons_self ..
  · exact hi.wentOn_other hm ho hr h htask

theorem deed (h : Deed id m m') (hm : Sound m) (hskip : m'.Refreshing id) (hi : Repaid id task m) :
    Repaid id task m' := by
  cases h with
  | created p he hid =>
    refine hi.keep (.inl rfl) fun hf _ => ?_
    have hlt := hm.lt_of_owner hf.owner
    exact absurd (hid ▸ hlt) (Nat.lt_irrefl _)
  | asked hid =>
    refine hi.keep (.inr ⟨_, rfl, ?_⟩) fun hf howes => ⟨(hm.spawned_asked.inFlight hm.guarded).mpr hf, howes⟩
    rintro ⟨_, _, _, he, _⟩
    cases he
  | heard hid hh =>
    have howes := (SessionLoop.hears (l := m.loop) hid).owes
    refine hi.keep (.inr ⟨_, rfl, ?_⟩) fun hf ho => ⟨?_, howes.mpr ho⟩
    · rintro ⟨_, _, _, he, _⟩
      cases he
    · rcases hm.heard_tasks hid with h | h
      · exact (h.inFlight hm.guarded).mpr hf
      · exact (Stage.inFlight_congr h.tasks h.ledger).mpr hf
  | fired hid hp =>
    exact hi.keep (.inl rfl) fun hf howes =>
      ⟨(hm.spawned_fired.inFlight hm.guarded).mpr hf, (SessionLoop.owes_fire m.loop id).mpr howes⟩
  | disposed =>
    have hkept : ((m.world.dispose id).session id).resolver = (m.session id).resolver := by
      rw [World.session_dispose]
      split <;> rfl
    refine hi.keep (.inl rfl) fun hf howes => ⟨⟨hf.owner, hf.begun, hf.running⟩, ?_⟩
    show ((m.world.dispose id).session id).resolver.newImports = true
    rw [hkept]
    exact howes
  | wentOn ho hp thrown =>
    exact hi.wentOn hm ho (hm.running hp) (hm.wentOn_cases ho hp thrown) hskip

end Repaid

theorem Move.refreshing (h : Move m m') (hm : Sound m) (hskip : m'.Refreshing id) : m.Refreshing id :=
  fun task before after result ho => hskip task before after result (h.log_subset hm ho)

theorem Later.repaid (h : Later m m') (hm : Sound m) (hi : Repaid id task m) (hskip : m'.Refreshing id) :
    Repaid id task m' := by
  induction h with
  | refl => exact hi
  | tail hlater hmove ih =>
    have hsound := Later.sound hlater hm
    -- A session that refreshes to the end did so before the last move.
    have hbefore := ih (hmove.refreshing hsound hskip)
    rcases hmove.aside_or hsound id with h | h
    · exact hbefore.deed h hsound hskip
    · exact hbefore.aside h

/-- With the option to skip refreshments off, in whatever order editors change, passes begin, go on, end
well and fail: where no pass of a session is in flight, everything that a pass of it gave the host was
followed by a refreshment of its editor, unless that pass failed. -/
theorem change_refreshed (hm : Timeline m) (hskip : m.Refreshing id)
    (hnone : ∀ task, ¬ m.InFlight id task) {later earlier : List Occurrence} {before after : World}
    {result : Option (Except Fault Unit)}
    (hl : m.log = later ++ .ran id task before after result :: earlier)
    (hgiven : after.workspace.placed ≠ before.workspace.placed) :
    (∃ o, o ∈ later ++ [.ran id task before after result] ∧ o.Refreshes id) ∨
      ∃ o, o ∈ later ++ [.ran id task before after result] ∧ o.Fails id task := by
  obtain ⟨w, hw, hlater⟩ := hm
  have hsettled : m.Settled id task := by
    -- no task is in flight that could still owe a refresh
    rcases hlater.repaid hw.sound (.inl trivial) hskip with h | h
    · exact h
    · exact absurd h.1 (hnone task)
  unfold Stage.Settled at hsettled
  rw [hl] at hsettled
  obtain ⟨o, ho, hr | hf⟩ := hsettled.exists_mem ⟨before, after, result, rfl, hgiven⟩
  · exact .inl ⟨o, ho, hr⟩
  · exact .inr ⟨o, ho, hf⟩

/-! The application asks for a pass that ends well; or for one that gives the host two files and then fails,
since another package is out of reach, and for one more, which finds them there. -/

namespace Asking

def created : Stage :=
  .opening
    { packages :=
        { packages := .ofList [("a", .ofList [("package.json", "\x7b\"types\":\"e.d.ts\"\x7d"), ("e.d.ts", "")])]
          failing := ["b"] }
      editors := [{ text := "" }] }
    { editor := 0, source := some .shelf }

def idle : Stage := created.onwards 0 0 1

def ask (m : Stage) (text : String) : Stage := ({ m with loop := m.loop.setText 0 text } : Stage).asked 0

theorem timeline_created : Timeline created := .opening (.of_editor rfl rfl rfl) Nat.one_pos

theorem later_ask {m : Stage} (h : Later created m) (text : String) : Later created (ask m text) := by
  have hid := (h.attached timeline_created.sound).1
  exact .tail (.tail h (.setText m 0 text)) (.deed 0 (.asked (Nat.lt_of_lt_of_le Nat.one_pos hid)))

/-- The pass begins, asks for the manifest of a package, and for its declarations. -/
def asked : Stage := ask idle "require('a')"

def ended : Stage := asked.onwards 0 1 3

theorem ways : created.Goes 0 0 ∧ (∀ k < 3, (asked.onwards 0 1 k).Goes 0 1) ∧
    (created.session 0).options.skipRefreshAfterResolve = false ∧
    (∀ k < 3, ((asked.onwards 0 1 k).session 0).options.skipRefreshAfterResolve = false) ∧
    (asked.onwards 0 1 2).world.workspace.placed ≠ (asked.onwards 0 1 1).world.workspace.placed ∧
    ended.world.marked 0 = false := by
  decide +kernel

theorem timeline_ended : Timeline ended := by
  obtain ⟨hcreated, hasked, _⟩ := ways
  have hidle : Later created idle := .single (Stage.move_onward hcreated none)
  have hlater : Later asked ended := Stage.later_onwards hasked
  exact timeline_created.later ((later_ask hidle _).trans hlater)

theorem log_ended : ∃ r₀ r₁ r₂ r₃, ended.log =
    [.ran 0 1 (asked.onwards 0 1 2).world ended.world r₃] ++
    .ran 0 1 (asked.onwards 0 1 1).world (asked.onwards 0 1 2).world r₂ ::
    [.ran 0 1 asked.world (asked.onwards 0 1 1).world r₁, .asked 0,
      .ran 0 0 created.world idle.world r₀] := by
  obtain ⟨hcreated, hgoes, _⟩ := ways
  obtain ⟨r₀, hidle⟩ := Stage.log_onward hcreated
  obtain ⟨r₁, hbegun⟩ := Stage.log_onward (hgoes 0 (by decide))
  obtain ⟨r₂, hgiven⟩ := Stage.log_onward (hgoes 1 (by decide))
  obtain ⟨r₃, hended⟩ := Stage.log_onward (hgoes 2 (by decide))
  refine ⟨r₀, r₁, r₂, r₃, ?_⟩
  have hasked : asked.log = .asked 0 :: idle.log := rfl
  have hfirst : idle.log = [.ran 0 0 created.world idle.world r₀] := hidle
  have hsecond : (asked.onwards 0 1 1).log =
      .ran 0 1 asked.world (asked.onwards 0 1 1).world r₁ :: asked.log := hbegun
  have hthird : (asked.onwards 0 1 2).log = .ran 0 1 (asked.onwards 0 1 1).world
      (asked.onwards 0 1 2).world r₂ :: (asked.onwards 0 1 1).log := hgiven
  have hlast : ended.log =
      .ran 0 1 (asked.onwards 0 1 2).world ended.world r₃ :: (asked.onwards 0 1 2).log := hended
  rw [hlast, hthird, hsecond, hasked, hfirst]
  rfl

theorem ended_refreshed : ∃ later earlier before after result,
    ended.log = later ++ .ran 0 1 before after result :: earlier ∧
    after.workspace.placed ≠ before.workspace.placed ∧
    ((∃ o, o ∈ later ++ [.ran 0 1 before after result] ∧ o.Refreshes 0) ∨
      ∃ o, o ∈ later ++ [.ran 0 1 before after result] ∧ o.Fails 0 1) := by
  obtain ⟨_, _, hfirst, hskip, hgiven, hfree⟩ := ways
  obtain ⟨r₀, r₁, r₂, r₃, hlog⟩ := log_ended
  have hrefreshing : ended.Refreshing 0 := fun task before after result hm => by
    rw [hlog] at hm
    rcases List.mem_cons.mp hm with he | hm
    · cases he
      exact hskip 2 (by decide)
    rcases List.mem_cons.mp hm with he | hm
    · cases he
      exact hskip 1 (by decide)
    rcases List.mem_cons.mp hm with he | hm
    · cases he
      exact hskip 0 (by decide)
    rcases List.mem_cons.mp hm with he | hm
    · cases he
    rcases List.mem_cons.mp hm with he | hm
    · cases he
      exact hfirst
    · cases hm
  exact ⟨_, _, _, _, _, hlog, hgiven, change_refreshed timeline_ended hrefreshing
    (timeline_ended.not_inFlight hfree) hlog hgiven⟩

/-- The pass fails once two files of the first package have gone to the host. -/
def failed : Stage := (ask idle "require('a')require('b')").onwards 0 1 4

def now : Stage := (ask failed "require('a')").onwards 0 2 1

/-- The latest pass has ended well and none is in flight; the host has got files, and the editor was never
refreshed. -/
theorem now_unrefreshed : Timeline now ∧ (∀ task, ¬ now.InFlight 0 task) ∧
    Loop.task? now.loop 2 = some .done ∧ (now.session 0).options.skipRefreshAfterResolve = false ∧
    now.world.workspace.placed ≠ [] ∧ now.world.refreshes 0 = 0 := by
  have hways : (∀ k < 4, ((ask idle "require('a')require('b')").onwards 0 1 k).Goes 0 1) ∧
      (ask failed "require('a')").Goes 0 2 ∧ now.world.marked 0 = false ∧
      Loop.task? now.loop 2 = some .done ∧ (now.session 0).options.skipRefreshAfterResolve = false ∧
      now.world.workspace.placed ≠ [] ∧ now.world.refreshes 0 = 0 := by
    decide +kernel
  obtain ⟨hgoes, hagain, hfree, hfacts⟩ := hways
  have hidle : Later created idle := .single (Stage.move_onward ways.1 none)
  have hfailed : Later created failed := (later_ask hidle _).trans (Stage.later_onwards hgoes)
  have hnow : Move (ask failed "require('a')") now := Stage.move_onward hagain none
  have htimeline : Timeline now := timeline_created.later ((later_ask hfailed _).tail hnow)
  exact ⟨htimeline, htimeline.not_inFlight hfree, hfacts⟩

end Asking

end DeclarationFetch
