import DeclarationFetch.Proofs.Session.Collaborators
import DeclarationFetch.Proofs.Session.Holdings

/-! # Whose listener and whose source

What can happen next, with the calls of those who have a session, and what it leaves to the others.

* `Doing`, `Act`: what is done by a session or to it, and all that can happen. The application has no hold on
  the sources that sessions have made (`Outside`).
* `Stage.Each`: what the tasks of a session do when they go on. `Timeline.each`: they leave to a session what
  it holds, or close it.
* `Stage.Joined`: what a new session holds.
* `Stage.Beside id`: what happens beside a session. `Act.beside_or`: what happens is done by the session, or
  to it, or beside it.
-/

namespace DeclarationFetch

open World (Tended Stretch StretchOrClose Spared Kept Closed)

/-! ## What can happen next -/

namespace Stage

/-- What the one who has a session may call. Who leaves its context closes it. -/
inductive Call where
  | resolve
  | dispose
  | close
  deriving DecidableEq

def closed (m : Stage) (id : Nat) : Stage := { m with loop := m.loop.close id }

def called (m : Stage) (id : Nat) : Call → Stage
  | .resolve => m.asked id
  | .dispose => m.disposed id
  | .close => m.closed id

end Stage

open Stage (Call)

/-- What is done by a session or to it, with the call if it is one. -/
inductive Doing (id : Nat) (m : Stage) : Option Call → Stage → Prop
  | called (c : Call) (hid : id < m.world.sessions.length) : Doing id m (some c) (m.called id c)
  | heard (hid : id < m.world.sessions.length) (hh : id ∈ m.hearing) : Doing id m none (m.heard id)
  | fired (hid : id < m.world.sessions.length) (hp : (m.session id).pending = true) :
      Doing id m none (m.fired id)
  | wentOn {task : Nat} {resume : Option Fault → World → Course World}
      (ho : m.ledger.owners[task]? = some id) (hm : (task, resume) ∈ m.loop.pending)
      (thrown : Option Fault) : Doing id m none (m.wentOn id task thrown (resume thrown m.world))

/-- What the application may do beside its calls. The sources that sessions have made are out of its reach. -/
structure Outside (w w' : World) : Prop extends Elsewhere w w' where
  ownsSource : ∀ id, (w'.session id).ownsSource = (w.session id).ownsSource
  source : ∀ id, (w.session id).ownsSource = true → (w'.session id).source = (w.session id).source
  web : w.web.Lasts w'.web

inductive Act (m : Stage) : Option (Nat × Call) → Stage → Prop
  | doing {id : Nat} {c : Option Call} {m' : Stage} (h : Doing id m c m') : Act m (c.map (id, ·)) m'
  | created (p : World.Plan) (he : p.editor < m.world.editors.length) : Act m none (m.created p)
  | notified (e : Nat) : Act m none { m with hearing := (m.world.editor e).listeners ++ m.hearing }
  | hushed {hearing : List Nat} (h : hearing ⊆ m.hearing) : Act m none { m with hearing := hearing }
  | blocked : Act m none { m with loop := m.loop.block }
  | released : Act m none { m with loop := m.loop.release }
  | outside {w : World} (h : Outside m.world w) : Act m none (m.withWorld w)

variable {id other task : Nat} {m m' m'' : Stage} {p : World.Plan}

theorem World.elsewhere_closeSource (w : World) (id : Nat) : Elsewhere w (w.closeSource id) := by
  unfold World.closeSource
  dsimp only
  split
  · next client _ _ =>
    have hweb : Elsewhere w { w with web := (client.close w.web).2 } := .of_eq rfl rfl fun _ => .refl _
    refine ⟨List.length_set, fun other => ?_, Nat.le_refl _, fun _ => rfl, fun _ => .refl _⟩
    rw [World.session_setSession]
    split
    · next ho => exact ho.1 ▸ ⟨rfl, rfl, rfl, rfl, rfl, rfl, rfl, rfl⟩
    · exact .refl _
  · exact .of_eq rfl rfl fun _ => .refl _

theorem World.same_close (w : World) (hid : id < w.sessions.length) :
    (w.session id).letGo.Same ((w.close id).session id) := by
  have hsame := (World.elsewhere_closeSource (w.dispose id) id).same id
  rw [World.session_dispose_self hid] at hsame
  exact hsame

theorem Stage.later_closed (m : Stage) (id : Nat) : Later m (m.closed id) := by
  -- closing is disposing, which is a deed, and then closing the source
  have hsource : Move (m.disposed id) ((m.disposed id).withWorld ((m.disposed id).world.closeSource id)) :=
    .elsewhere (World.elsewhere_closeSource _ id)
  exact (Relation.ReflTransGen.single (.deed id .disposed)).tail hsource

theorem Doing.deed_or {c : Option Call} (h : Doing id m c m') : Deed id m m' ∨ m' = m.closed id := by
  cases h with
  | called c hid =>
    cases c with
    | resolve => exact .inl (.asked hid)
    | dispose => exact .inl .disposed
    | close => exact .inr rfl
  | heard hid hh => exact .inl (.heard hid hh)
  | fired hid hp => exact .inl (.fired hid hp)
  | wentOn ho hp thrown => exact .inl (.wentOn ho hp thrown)

theorem Doing.later {c : Option Call} (h : Doing id m c m') : Later m m' := by
  rcases h.deed_or with hd | rfl
  · exact .single (.deed id hd)
  · exact m.later_closed id

theorem Act.later {label : Option (Nat × Call)} (h : Act m label m') : Later m m' := by
  cases h with
  | doing h => exact h.later
  | created p he => exact .single (.deed _ (.created p he rfl))
  | notified e => exact .single (.notified e)
  | hushed h => exact .single (.hushed h)
  | blocked => exact .single .blocked
  | released => exact .single .released
  | outside h => exact .single (.elsewhere h.toElsewhere)

/-! ## Tasks -/

/-- Every task of the session goes on as `r` says. -/
def Stage.Each (m : Stage) (r : World → World → Prop) (id : Nat) : Prop :=
  ∀ (task : Nat) resume, (task, resume) ∈ m.loop.pending → m.ledger.owners[task]? = some id →
    ∀ thrown v, id < v.sessions.length → (resume thrown v).Each r id v

structure Stage.Past (id : Nat) (m m' : Stage) : Prop where
  owners : ∀ task : Nat, m'.ledger.owners[task]? = some id ↔ m.ledger.owners[task]? = some id
  begun : m.ledger.begun ⊆ m'.ledger.begun
  pending : ∀ (task : Nat) resume, m.ledger.owners[task]? = some id →
    ((task, resume) ∈ m'.loop.pending ↔ (task, resume) ∈ m.loop.pending)

theorem Stage.Past.each {r : World → World → Prop} (h : Stage.Past id m m') (he : m.Each r id) :
    m'.Each r id := fun task resume hp ho =>
  have ho' := (h.owners task).mp ho
  he task resume ((h.pending task resume ho').mp hp) ho'

theorem Stage.past_of_eq (hp : ∀ entry, entry ∈ m'.loop.pending ↔ entry ∈ m.loop.pending)
    (hl : m'.ledger = m.ledger) : Stage.Past id m m' where
  owners task := by rw [hl]
  begun := hl ▸ List.Subset.refl _
  pending task resume _ := hp _

theorem Deed.Tasks.past (h : Deed.Tasks other m m') (hm : Sound m) (hne : id ≠ other) :
    Stage.Past id m m' := by
  cases h with
  | spawned h hw =>
    have howners : ∀ task : Nat, m'.ledger.owners[task]? = some id ↔ m.ledger.owners[task]? = some id :=
      fun task => by
        rw [h.owners, List.getElem?_append]
        split
        · exact Iff.rfl
        · next hlt =>
          rw [List.getElem?_eq_none (Nat.le_of_not_lt hlt), List.getElem?_singleton]
          split
          · exact iff_of_false (fun he => hne (Option.some.inj he).symm) nofun
          · exact Iff.rfl
    refine ⟨howners, h.begun ▸ List.Subset.refl _, fun task resume ho => ?_⟩
    rw [h.pending]
    refine or_iff_right fun he => ?_
    have hlt := hm.guarded.lt_of_owner ho
    exact Nat.lt_irrefl _ ((Prod.mk.inj he).1 ▸ hlt)
  | idle h => exact Stage.past_of_eq h.pending h.ledger
  | wentOn ho hp h =>
    refine ⟨fun _ => Iff.rfl, List.subset_cons_self _ _, fun task resume ho' => ?_⟩
    have hother : task ≠ _ := fun he => hne (Option.some.inj ((he ▸ ho').symm.trans ho))
    refine Loop.mem_pending_park.trans ⟨fun hp => ?_, fun hp => .inl ⟨hp, hother⟩⟩
    rcases hp with ⟨hp, _⟩ | ⟨_, _, _, _, he⟩
    · exact hp
    · exact absurd (Prod.mk.inj he).1 hother

theorem Loop.unbegun_each {r : World → World → Prop} {body : World → Course World} (hrefl : ∀ v, r v v)
    (hbody : ∀ v, (body v).Each r id v) (thrown : Option Fault) (v : World) :
    (Loop.unbegun body thrown v).Each r id v := by
  cases thrown with
  | none => exact hbody v
  | some fault => exact hrefl v

theorem Spawned.each {r : World → World → Prop} {body : World → Course World} (h : Spawned id body m m')
    (hm : Sound m) (hrefl : ∀ v, r v v) (hbody : ∀ v, (body v).Each r id v) (he : m.Each r id) :
    m'.Each r id := by
  intro task resume hp ho thrown v hv
  rcases (h.pending _).mp hp with heq | hp
  · cases heq
    exact Loop.unbegun_each hrefl hbody thrown v
  · have howner := (h.before hm.guarded (hm.guarded.lt_of_pending hp)).1
    exact he task resume hp (howner ▸ ho) thrown v hv

theorem Idle.each {r : World → World → Prop} (h : Idle m m') (he : m.Each r id) : m'.Each r id :=
  (Stage.past_of_eq h.pending h.ledger).each he

/-- The tasks of a session are passes, but for the first one, which closes the session where it fails. -/
theorem Deed.each {r : World → World → Prop} (h : Deed id m m') (hm : Sound m)
    (hr : ∀ v v', Stretch id v v' → r v v')
    (hfirst : id = m.world.sessions.length → ∀ v, (World.firstPass id v).Each r id v) (he : m.Each r id) :
    m'.Each r id := by
  have hrefl : ∀ v, r v v := fun v => hr v v (.refl v)
  have hpass : ∀ v, (World.resolveContents id v).Each r id v := fun v =>
    (World.resolveContents_each id v).mono hr
  cases h with
  | created p hed hid =>
    obtain rfl : id = (m.loop.create p).1 := hid.trans (SessionLoop.create_fst m.loop p).symm
    have hspawned := spawned_enter hm.guarded (m.loop.create p).1 (m.loop.create p).2.2
      (World.firstPass (m.loop.create p).1) rfl rfl
    exact hspawned.each hm hrefl (hfirst hid) he
  | asked hid => exact hm.spawned_asked.each hm hrefl hpass he
  | heard hid hh =>
    rcases hm.heard_tasks hid with h | h
    · exact h.each hm hrefl hpass he
    · exact h.each he
  | fired hid hp => exact hm.spawned_fired.each hm hrefl hpass he
  | disposed => exact he
  | wentOn ho hp thrown =>
    intro task' resume' hp' ho' thrown' v hv
    -- another task is as it was, and the same one goes on with the rest of its course
    rcases Loop.mem_pending_park.mp hp' with ⟨hp', _⟩ | ⟨gated, w, resume'', hc, heq⟩
    · exact he task' resume' hp' ho' thrown' v hv
    · cases heq
      have hcourse := he _ _ hp ho thrown m.world (hm.lt_of_owner ho)
      rw [hc] at hcourse
      exact hcourse.2 thrown' v hv

theorem Move.each (h : Move m m') (hm : Sound m) (he : ∀ id, m.Each (StretchOrClose id) id) (id : Nat) :
    m'.Each (StretchOrClose id) id := by
  have hidle : ∀ {m' : Stage}, (∀ entry, entry ∈ m'.loop.pending ↔ entry ∈ m.loop.pending) →
      m'.ledger = m.ledger → m'.Each (StretchOrClose id) id := fun hp hl =>
    (Stage.past_of_eq hp hl).each (he id)
  cases h with
  | deed other h =>
    by_cases hne : id = other
    · subst hne
      exact h.each hm (fun _ _ => .inl) (fun _ v => World.firstPass_each id v) (he id)
    · exact ((h.tasks hm).past hm hne).each (he id)
  | notified e => exact hidle (fun _ => Iff.rfl) rfl
  | hushed h => exact hidle (fun _ => Iff.rfl) rfl
  | blocked => exact hidle (fun _ => Iff.rfl) rfl
  | released =>
    have hpending : m.loop.release.pending = m.loop.pending := List.append_nil _
    exact hidle (fun entry => iff_of_eq (congrArg (entry ∈ ·) hpending)) rfl
  | elsewhere h => exact hidle (fun _ => Iff.rfl) rfl

theorem Later.each (h : Later m m') (hm : Sound m) (he : ∀ id, m.Each (StretchOrClose id) id) :
    ∀ id, m'.Each (StretchOrClose id) id := by
  induction h with
  | refl => exact he
  | tail hlater hmove ih => exact hmove.each (Later.sound hlater hm) ih

theorem Timeline.each (h : Timeline m) (id : Nat) : m.Each (StretchOrClose id) id := by
  obtain ⟨w, hw, hlater⟩ := h
  exact hlater.each hw.sound (fun _ _ _ hp => (List.not_mem_nil hp).elim) id

/-! ## What has run -/

structure Ran where
  task : Nat
  before : World
  after : World
  result : Option (Except Fault Unit)

def Occurrence.ran? (id : Nat) : Occurrence → Option Ran
  | ran id' task before after result => if id' = id then some ⟨task, before, after, result⟩ else none
  | _ => none

/-- What the tasks of a session have run, the latest first. -/
def Stage.runs (m : Stage) (id : Nat) : List Ran := m.log.filterMap (Occurrence.ran? id)

theorem Occurrence.ran?_of_ne {o : Occurrence} (h : o.session ≠ id) : o.ran? id = none := by
  cases o with
  | ran id' task before after result => exact if_neg h
  | asked | heard | dropped => rfl

theorem Stage.runs_of_log (h : m'.log = m.log ∨ ∃ o, m'.log = o :: m.log ∧ o.ran? id = none) :
    m'.runs id = m.runs id := by
  unfold Stage.runs
  rcases h with hlog | ⟨o, hlog, ho⟩
  · rw [hlog]
  · rw [hlog, List.filterMap_cons_none ho]

theorem Stage.runs_wentOn (id : Nat) {thrown : Option Fault} (c : Course World)
    (h : thrown = none ∨ task ∈ m.ledger.begun) :
    (m.wentOn id task thrown c).runs id = ⟨task, m.world, c.state, c.result?⟩ :: m.runs id :=
  List.filterMap_cons_some (by rw [m.occurrence_ran id c h]; exact if_pos rfl)

/-! ## What happens beside a session -/

/-- The session keeps what it holds, and its tasks are left alone and do not run. -/
structure Stage.Beside (id : Nat) (m m' : Stage) : Prop where
  past : Stage.Past id m m'
  spared : Spared id m.world m'.world
  settled : ∀ (task : Nat), m.ledger.owners[task]? = some id →
    Loop.task? m'.loop task = Loop.task? m.loop task
  runs : m'.runs id = m.runs id

/-- What is made or found for a session is no session, no editor and no client. -/
theorem World.attach_before (p : World.Plan) (w : World) :
    (World.attachHost p (World.attachCache p w).2).2.sessions = w.sessions ∧
    (World.attachHost p (World.attachCache p w).2).2.editors = w.editors ∧
    (World.attachHost p (World.attachCache p w).2).2.web = w.web := by
  have hcache : (World.attachCache p w).2.editors = w.editors ∧ (World.attachCache p w).2.web = w.web := by
    unfold World.attachCache
    split
    · exact ⟨rfl, rfl⟩
    · split <;> exact ⟨rfl, rfl⟩
  have hhost (v : World) : (World.attachHost p v).2.editors = v.editors ∧
      (World.attachHost p v).2.web = v.web := by
    unfold World.attachHost
    split <;> exact ⟨rfl, rfl⟩
  refine ⟨?_, (hhost _).1.trans hcache.1, (hhost _).2.trans hcache.2⟩
  rw [World.sessions_attachHost, World.sessions_attachCache]

structure World.Plan.Attaches (p : World.Plan) (s : Session) : Prop where
  editor : s.editor = p.editor
  subscription : s.subscription = {}
  pending : s.pending = false
  source : s.source = (World.attachSource p).1
  ownsSource : s.ownsSource = (World.attachSource p).2

/-- A session comes that listens to its editor, and nothing else happens. -/
structure Stage.Joined (p : World.Plan) (m m' : Stage) : Prop where
  session : p.Attaches (m'.session m.world.sessions.length)
  listeners : ∀ e, (m'.world.editor e).listeners =
    if e = p.editor ∧ p.editor < m.world.editors.length then
      (m.world.editor p.editor).listeners ++ [m.world.sessions.length]
    else (m.world.editor e).listeners
  web : m'.world.web = m.world.web

theorem Stage.joined_created (m : Stage) (p : World.Plan) : Stage.Joined p m (m.created p) := by
  obtain ⟨hsessions, heditors, hweb⟩ := World.attach_before p m.world
  have hworld : ∃ s : Session, p.Attaches s ∧ (m.created p).world =
      (({ (World.attachHost p (World.attachCache p m.world).2).2 with
          sessions := (World.attachHost p (World.attachCache p m.world).2).2.sessions ++ [s] } :
        World).mapEditor p.editor
          (·.listen (World.attachHost p (World.attachCache p m.world).2).2.sessions.length)) :=
    ⟨_, ⟨rfl, rfl, rfl, rfl, rfl⟩, rfl⟩
  obtain ⟨s, hs, hworld⟩ := hworld
  generalize (World.attachHost p (World.attachCache p m.world).2).2 = v at hsessions heditors hweb hworld
  refine ⟨?_, fun e => ?_, ?_⟩
  · have hsession : (m.created p).session m.world.sessions.length = s := by
      show (m.created p).world.session _ = s
      rw [hworld]
      show ({ v with sessions := v.sessions ++ [s] } : World).session _ = s
      rw [session_addSession, if_pos (congrArg List.length hsessions).symm]
    exact hsession ▸ hs
  · have heditor : ∀ e, ({ v with sessions := v.sessions ++ [s] } : World).editor e = m.world.editor e :=
      fun e => by
        unfold World.editor
        rw [← heditors]
    rw [hworld, World.editor_mapEditor, heditor, heditor, ← heditors, ← hsessions]
    split <;> rfl
  · rw [hworld]
    exact hweb

theorem Deed.spared (h : Deed other m m') (hm : Sound m) (he : m.Each (StretchOrClose other) other)
    (hne : id ≠ other) : Spared id m.world m'.world := by
  have hsession : m'.world.session id = m.world.session id := (h.touched hm).others id hne
  cases h with
  | created p hed hid =>
    have hjoined := m.joined_created p
    refine World.spared_of_session_eq (Nat.le_of_lt (m.lt_created p)) hsession (fun e => ?_)
      (Registry.Web.lasts_of_eq (congrArg Registry.Web.closed hjoined.web))
    rw [hjoined.listeners]
    split
    · next heq =>
      have hnone : [m.world.sessions.length].count id = 0 :=
        List.count_eq_zero.mpr fun hmem => hne ((List.mem_singleton.mp hmem).trans hid.symm)
      rw [List.count_append, hnone, heq.1, Nat.add_zero]
    · rfl
  | asked hid => exact .refl _
  | heard hid hh => exact (World.rearmed_contentChanged m.loop other).spared hsession
  | fired hid hp => exact (World.rearmed_fire m.loop other).spared hsession
  | disposed => exact World.spared_dispose m.world hne
  | wentOn ho hp thrown =>
    have htended := (hm.wentOn_cases ho hp thrown).tended
    have hstretch := (he _ _ hp ho thrown m.world (hm.lt_of_owner ho)).first
    show Spared id m.world ((m.loop.without _).park _ _).state
    rw [Loop.state_park]
    exact hstretch.spared htended hne

theorem Deed.Tasks.settled (h : Deed.Tasks other m m') (hm : Sound m) {state : TaskState}
    (hs : Loop.task? m.loop task = some state) (hr : state ≠ .running) :
    Loop.task? m'.loop task = some state := by
  cases h with
  | spawned h hw => exact (h.before hm.guarded (List.getElem?_eq_some_iff.mp hs).1).2.trans hs
  | idle h =>
    unfold Loop.task?
    rw [h.tasks]
    exact hs
  | wentOn ho hp h =>
    refine (Loop.task?_park fun he => hr ?_).trans hs
    exact Option.some.inj (hs.symm.trans (he ▸ hm.running hp))

theorem Deed.Tasks.task?_eq (h : Deed.Tasks other m m') (hm : Sound m) (hne : id ≠ other)
    (ho : m.ledger.owners[task]? = some id) : Loop.task? m'.loop task = Loop.task? m.loop task := by
  cases h with
  | spawned h hw => exact (h.before hm.guarded (hm.guarded.lt_of_owner ho)).2
  | idle h => exact congrArg (·[task]?) h.tasks
  | wentOn ho' hp h =>
    exact Loop.task?_park fun he => hne (Option.some.inj (ho.symm.trans (he ▸ ho')))

theorem Deed.beside (h : Deed other m m') (hm : Timeline m) (hne : id ≠ other) : Stage.Beside id m m' where
  past := (h.tasks hm.sound).past hm.sound hne
  spared := h.spared hm.sound (hm.each other) hne
  settled _ ho := (h.tasks hm.sound).task?_eq hm.sound hne ho
  runs := Stage.runs_of_log <| (h.log hm.sound).imp_right fun ⟨o, hlog, ho, _⟩ =>
    ⟨o, hlog, Occurrence.ran?_of_ne (ho ▸ hne.symm)⟩

theorem Stage.beside_of_idle (hp : ∀ entry, entry ∈ m'.loop.pending ↔ entry ∈ m.loop.pending)
    (ht : m'.loop.tasks = m.loop.tasks) (hg : m'.ledger = m.ledger) (hl : m'.log = m.log)
    (hs : Spared id m.world m'.world) : Stage.Beside id m m' where
  past := Stage.past_of_eq hp hg
  spared := hs
  settled _ _ := congrArg (·[_]?) ht
  runs := Stage.runs_of_log (.inl hl)

theorem Outside.spared {w w' : World} (h : Outside w w') : Spared id w w' where
  sessions := Nat.le_of_eq h.sessions.symm
  editor := (h.same id).editor
  subscription := (h.same id).subscription
  debouncer := (h.same id).debouncer
  ownsSource := h.ownsSource id
  source := h.source id
  listeners e := congrArg (List.count id) (h.listeners e)
  web := h.web

theorem Doing.beside {c : Option Call} (h : Doing other m c m') (hm : Timeline m) (hne : id ≠ other) :
    Stage.Beside id m m' := by
  rcases h.deed_or with hd | rfl
  · exact hd.beside hm hne
  · exact Stage.beside_of_idle (fun _ => Iff.rfl) rfl rfl rfl (World.spared_close m.world hne)

theorem Doing.settled {c : Option Call} (h : Doing id m c m') (hm : Timeline m) {state : TaskState}
    (hs : Loop.task? m.loop task = some state) (hr : state ≠ .running) :
    Loop.task? m'.loop task = some state := by
  rcases h.deed_or with hd | rfl
  · exact (hd.tasks hm.sound).settled hm.sound hs hr
  · exact hs

theorem Doing.owner {c : Option Call} (h : Doing id m c m') (hm : Timeline m)
    (ho : m.ledger.owners[task]? = some id) : m'.ledger.owners[task]? = some id := by
  rcases h.deed_or with hd | rfl
  · cases hd.tasks hm.sound with
    | spawned h hw => exact (h.before hm.sound.guarded (hm.sound.guarded.lt_of_owner ho)).1.trans ho
    | idle h => exact h.ledger ▸ ho
    | wentOn ho' hp h => exact ho
  · exact ho

/-- All tasks are passes, once the first one is over. -/
theorem Doing.each {c : Option Call} (h : Doing id m c m') (hm : Timeline m)
    (hid : id < m.world.sessions.length) (he : m.Each (Stretch id) id) : m'.Each (Stretch id) id := by
  rcases h.deed_or with hd | rfl
  · exact hd.each hm.sound (fun _ _ hs => hs) (fun heq => absurd hid (heq ▸ Nat.lt_irrefl _)) he
  · exact he

/-- Whatever happens is done by a session or to it, or beside it. -/
theorem Act.beside_or {label : Option (Nat × Call)} (h : Act m label m') (hm : Timeline m)
    (hid : id < m.world.sessions.length) :
    Stage.Beside id m m' ∨ ∃ c, Doing id m c m' ∧ label = c.map (id, ·) := by
  cases h with
  | @doing other c _ h =>
    by_cases hne : id = other
    · subst hne
      exact .inr ⟨c, h, rfl⟩
    · exact .inl (h.beside hm hne)
  | created p he => exact .inl ((Deed.created p he rfl).beside hm (Nat.ne_of_lt hid))
  | notified e => exact .inl (Stage.beside_of_idle (fun _ => Iff.rfl) rfl rfl rfl (.refl _))
  | hushed h => exact .inl (Stage.beside_of_idle (fun _ => Iff.rfl) rfl rfl rfl (.refl _))
  | blocked => exact .inl (Stage.beside_of_idle (fun _ => Iff.rfl) rfl rfl rfl (.refl _))
  | released =>
    have hpending : m.loop.release.pending = m.loop.pending := List.append_nil _
    exact .inl (Stage.beside_of_idle (fun entry => iff_of_eq (congrArg (entry ∈ ·) hpending)) rfl rfl rfl
      (.refl _))
  | outside h => exact .inl (Stage.beside_of_idle (fun _ => Iff.rfl) rfl rfl rfl h.spared)

end DeclarationFetch
